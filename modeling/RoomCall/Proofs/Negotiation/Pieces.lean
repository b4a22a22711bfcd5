import Mathlib.Logic.Relation
import RoomCall.Proofs.Negotiation.Guards

/-!
# What an operation is made of

Each operation of a negotiation does a few things in turn: it remembers something, asks the engine
for something, or moves to another stage. `Piece` lists these things with the conditions under which
they happen, and every operation is a chain of them, also where it fails half way. What is to hold
whatever is asked has to be shown for the pieces alone.

`Upright` says how the stage, the pipeline, the side and the report of a negotiation agree. They are
kept apart and changed by different operations, so the conditions of the pieces rest on it.
-/

namespace RoomCall

/-- Whether a request uses the pipeline: it neither builds it nor takes it down. -/
def Engine.Request.isUse : Engine.Request → Bool
  | .build _ | .finish => false
  | _ => true

namespace Negotiation

variable {ε : Type} {negotiation before after : Negotiation ε}

/-- How stage, pipeline, side and report agree between two operations. -/
structure Upright (negotiation : Negotiation ε) : Prop where
  pipeline : negotiation.hasPipeline = true ↔ negotiation.progress ≠ .disconnected
  /-- Building is never left half done. -/
  built : negotiation.progress ≠ .initiating
  described : negotiation.progress.isNegotiated = true → negotiation.described = true
  role : negotiation.hasPipeline = true → ∃ side, negotiation.role = some side

/-- A negotiation that has done nothing is upright. -/
theorem upright_fresh (id : SessionId) (engine : ε) : (fresh id engine).Upright :=
  ⟨by simp [fresh], by simp [fresh], by simp [fresh, Progress.isNegotiated], by simp [fresh]⟩

/-- An upright negotiation has no pipeline while it is disconnected. -/
theorem Upright.down (upright : negotiation.Upright)
    (idle : negotiation.progress = .disconnected) : negotiation.hasPipeline = false := by
  have there := upright.pipeline.mp
  cases pipeline : negotiation.hasPipeline with
  | false => rfl
  | true => exact absurd idle (there pipeline)

/-- An upright negotiation has its pipeline in every other stage. -/
theorem Upright.up (upright : negotiation.Upright) {stage : Progress}
    (stands : negotiation.progress = stage) (busy : stage ≠ .disconnected) :
    negotiation.hasPipeline = true :=
  upright.pipeline.mpr (stands ▸ busy)

/-- Something may be remembered, but nothing on which the stage or the engine depends. -/
structure Remembers (before after : Negotiation ε) : Prop where
  role : after.role = before.role
  progress : after.progress = before.progress
  pipeline : after.hasPipeline = before.hasPipeline
  described : after.described = before.described
  engine : after.engine = before.engine
  traffic : after.traffic = before.traffic

theorem Upright.congr (upright : before.Upright) (remembers : Remembers before after) :
    after.Upright where
  pipeline := by
    rw [remembers.pipeline, remembers.progress]
    exact upright.pipeline
  built := by
    rw [remembers.progress]
    exact upright.built
  described := by
    rw [remembers.progress, remembers.described]
    exact upright.described
  role := by
    rw [remembers.pipeline, remembers.role]
    exact upright.role

variable [MediaEngine ε]

/-- One piece of what an operation does. -/
inductive Piece (before : Negotiation ε) : Negotiation ε → Prop where
  | notes {after : Negotiation ε} (remembers : Remembers before after) : Piece before after
  | takesSide (down : before.hasPipeline = false) (side : Role) :
      Piece before { before with role := some side }
  | asks {request : Engine.Request} (up : before.hasPipeline = true)
      (use : request.isUse = true) : Piece before (before.tell request)
  | unbuilt {pipeline : Engine.Pipeline} {fault : Engine.Fault}
      (down : before.hasPipeline = false)
      (refused : (MediaEngine.respond before.engine (.build pipeline)).fault = some fault) :
      Piece before (before.tell (.build pipeline))
  | builds {pipeline : Engine.Pipeline} {side : Role} (down : before.hasPipeline = false)
      (role : before.role = some side)
      (consent : (MediaEngine.respond before.engine (.build pipeline)).fault = none) :
      Piece before
        { before.tell (.build pipeline) with progress := .initiated, hasPipeline := true }
  | reports {side : Role} (up : before.hasPipeline = true) (role : before.role = some side) :
      Piece before { before with described := true, progress := side.sent }
  | follows {stage : Progress} (up : before.hasPipeline = true)
      (negotiated : before.progress.isNegotiated = true) (later : stage.isNegotiated = true) :
      Piece before { before with progress := stage }
  | fails (up : before.hasPipeline = true) : Piece before { before with progress := .iceFailed }
  | finishes (up : before.hasPipeline = true) :
      Piece before { before.tell .finish with hasPipeline := false, progress := .disconnected }

/-- What an operation does, from one piece to the next. -/
abbrev Pieces (before after : Negotiation ε) : Prop := Relation.ReflTransGen Piece before after

/-- Each piece of an operation leaves an upright negotiation upright. -/
theorem Piece.upright (piece : Piece before after) (upright : before.Upright) : after.Upright := by
  cases piece with
  | notes remembers => exact upright.congr remembers
  | takesSide down side =>
      exact ⟨upright.pipeline, upright.built, upright.described, fun _ => ⟨side, rfl⟩⟩
  | asks => exact ⟨upright.pipeline, upright.built, upright.described, upright.role⟩
  | unbuilt => exact ⟨upright.pipeline, upright.built, upright.described, upright.role⟩
  | builds down role => exact ⟨by simp, by simp, by simp [Progress.isNegotiated], fun _ => ⟨_, role⟩⟩
  | @reports side up role =>
      refine ⟨?_, ?_, fun _ => rfl, upright.role⟩ <;> cases side <;> simp [up, Role.sent]
  | @follows stage up negotiated later =>
      refine ⟨?_, ?_, fun _ => upright.described negotiated, upright.role⟩ <;>
        cases stage <;> simp_all [Progress.isNegotiated]
  | fails up => exact ⟨by simp [up], by simp, by simp [Progress.isNegotiated], upright.role⟩
  | finishes => exact ⟨by simp, by simp, by simp [Progress.isNegotiated], by simp⟩

theorem Pieces.upright (pieces : Pieces before after) (upright : before.Upright) :
    after.Upright := by
  induction pieces with
  | refl => exact upright
  | tail _ piece ih => exact piece.upright ih

/-! ## The pieces of the operations -/

/-- What is remembered of the other side concerns neither the stage nor the engine. -/
theorem pieces_applyRemote (up : negotiation.hasPipeline = true) (description : String)
    (kind : DescriptionKind) (user : UserId) :
    Pieces negotiation (negotiation.applyRemote description kind user).1 := by
  have remembers : Remembers negotiation { negotiation with
      remoteUser := some user
      remoteStreams := rememberStreams negotiation.remoteStreams description user } :=
    ⟨rfl, rfl, rfl, rfl, rfl, rfl⟩
  exact .tail (.single (.notes remembers)) (.asks up rfl)

theorem pieces_addRemoteCandidates (up : negotiation.hasPipeline = true)
    (candidates : List Candidate) :
    Pieces negotiation (negotiation.addRemoteCandidates candidates) := by
  rcases negotiation.addRemoteCandidates_usable candidates with same | ⟨usable, _, told⟩
  · rw [same]
  · rw [told]
    exact .single (.asks up rfl)

/-- A negotiation that is down takes a side and has its pipeline built, or stays down. -/
theorem build_pieces (upright : negotiation.Upright) (idle : negotiation.progress = .disconnected)
    (side : Role) (pipeline : Engine.Pipeline) :
    (∃ failed fault, ({ negotiation with role := some side } : Negotiation ε).build pipeline =
        (failed, .error (.media fault)) ∧
        failed.described = negotiation.described ∧ Pieces negotiation failed) ∨
      ∃ built, ({ negotiation with role := some side } : Negotiation ε).build pipeline =
        (built, .ok (openingStages.map .progressChanged)) ∧ built.hasPipeline = true ∧
        built.described = negotiation.described ∧ Pieces negotiation built := by
  have down := upright.down idle
  have sided : Pieces negotiation { negotiation with role := some side } :=
    .single (.takesSide down side)
  rcases @build_cases ε _ { negotiation with role := some side } idle pipeline with
    ⟨fault, refusal, refused⟩ | ⟨consent, built⟩
  · exact .inl ⟨_, fault, refused, rfl, sided.tail (.unbuilt down refusal)⟩
  · exact .inr ⟨_, built, rfl, rfl, sided.tail (.builds down rfl consent)⟩

/-- A call is started by pieces: the role is taken, the pipeline is built, and the stage moves on.
-/
theorem pieces_start (upright : negotiation.Upright) (pipeline : Engine.Pipeline) :
    Pieces negotiation (negotiation.start pipeline).1 := by
  unfold start
  split
  · exact .refl
  · rename_i idle
    rcases build_pieces upright (Decidable.not_not.mp idle) .offering pipeline with
      ⟨failed, fault, refused, -, pieces⟩ | ⟨built, begun, up, -, pieces⟩
    · rw [refused]
      exact pieces
    · rw [begun]
      exact pieces.tail (.asks up rfl)

theorem pieces_acceptOffer (upright : negotiation.Upright) (pipeline : Engine.Pipeline)
    (offer : String) (candidates : List Candidate) (user : UserId) :
    Pieces negotiation (negotiation.acceptOffer pipeline offer candidates user).1 := by
  unfold acceptOffer
  split
  · exact .refl
  · split
    · exact .refl
    · rename_i idle _
      rcases build_pieces upright (Decidable.not_not.mp idle) .answering pipeline with
        ⟨failed, fault, refused, -, pieces⟩ | ⟨built, begun, up, -, pieces⟩
      · rw [refused]
        exact pieces
      · rw [begun]
        have applied := pieces.trans (pieces_applyRemote up offer .offer user)
        have still : (built.applyRemote offer .offer user).1.hasPipeline = true := up
        dsimp only
        generalize built.applyRemote offer .offer user = reply at applied still ⊢
        rcases reply with ⟨taken, _ | fault⟩
        · have added := pieces_addRemoteCandidates still candidates
          have same : (taken.addRemoteCandidates candidates).bearing = taken.bearing :=
            bearing_addRemoteCandidates candidates
          have pipeline := congrArg Bearing.hasPipeline same
          exact (applied.trans added).tail (.asks (pipeline.trans still) rfl)
        · exact applied

theorem pieces_acceptAnswer (upright : negotiation.Upright) (answer : String)
    (candidates : List Candidate) (user : UserId) :
    Pieces negotiation (negotiation.acceptAnswer answer candidates user).1 := by
  by_cases sent : negotiation.progress = .offerSent
  · have up := upright.up sent (by simp)
    have applied := pieces_applyRemote up answer .answer user
    rcases acceptAnswer_cases sent answer candidates user with
      ⟨failed, fault, reply, refused⟩ | ⟨_, taken⟩
    · rw [reply] at applied
      rw [refused]
      exact applied
    · rw [taken]
      have still : (negotiation.applyRemote answer .answer user).1.hasPipeline = true := up
      exact applied.trans (pieces_addRemoteCandidates still candidates)
  · rw [acceptAnswer, if_pos sent]

theorem pieces_renegotiate (description : String) (user : UserId) (isAnswer : Bool) :
    Pieces negotiation (negotiation.renegotiate description user isAnswer).1 := by
  by_cases up : negotiation.hasPipeline = true
  · rcases negotiation.renegotiate_cases description user isAnswer with same | ⟨kind, same | same⟩
    · rw [same]
    · rw [same]
      exact pieces_applyRemote up description kind user
    · rw [same]
      exact (pieces_applyRemote up description kind user).tail (.asks up rfl)
  · rw [renegotiate, if_pos (by simp [up])]

theorem pieces_acceptCandidates (candidates : List Candidate) :
    Pieces negotiation (negotiation.acceptCandidates candidates) := by
  unfold acceptCandidates
  split
  · rename_i up
    exact pieces_addRemoteCandidates up candidates
  · exact .refl

theorem pieces_finish (upright : negotiation.Upright) :
    Pieces negotiation negotiation.finish.1 := by
  rw [finish_eq]
  split
  · rename_i up
    have allowed : negotiation.progress.canBecome .disconnected = true :=
      canBecome_disconnected_of_ne (upright.pipeline.mp up)
    have moved := @moveTo_of_canBecome ε { negotiation.tell .finish with hasPipeline := false }
      .disconnected allowed
    rw [moved]
    exact .single (.finishes up)
  · rename_i down
    have idle : negotiation.progress = .disconnected :=
      Decidable.not_not.mp fun busy => down (upright.pipeline.mpr busy)
    rw [moveTo_self idle]

theorem pieces_setMuted (muted : Bool) : Pieces negotiation (negotiation.setMuted muted).1 := by
  by_cases up : negotiation.hasPipeline = true
  · rcases negotiation.setMuted_cases muted with same | same
    · rw [same]
    · rw [same]
      exact .single (.asks up rfl)
  · rw [setMuted, if_pos (by simp [canMute, up])]

theorem pieces_toggleCamera : Pieces negotiation negotiation.toggleCamera.1 := by
  by_cases up : negotiation.hasPipeline = true
  · rcases negotiation.toggleCamera_cases with same | same
    · rw [same]
    · rw [same]
      exact .single (.asks up rfl)
  · rw [toggleCamera, if_pos (by simp [up])]

/-! ## Callbacks -/

omit [MediaEngine ε] in
/-- Following the search leaves the stage alone, takes it from one stage after the report to a later
one, or finds that the search failed. -/
theorem followIce_forms :
    negotiation.followIce = (negotiation, []) ∨
      (∃ (stage : Progress) (stages : List Progress), negotiation.progress.isNegotiated = true ∧
        stage.isNegotiated = true ∧
        negotiation.followIce =
          ({ negotiation with progress := stage }, stages.map .progressChanged)) ∨
      negotiation.followIce =
        ({ negotiation with progress := .iceFailed },
          [.progressChanged .iceFailed, .failed .iceFailed]) := by
  -- Only once the report is out and no path was tried yet, trying begins.
  have begins : negotiation.beginConnecting = (negotiation, []) ∨
      negotiation.progress.isNegotiated = true ∧ negotiation.beginConnecting =
        ({ negotiation with progress := .connecting }, [.progressChanged .connecting]) := by
    by_cases offered : negotiation.progress = Role.offering.sent
    · exact .inr ⟨by rw [offered]; rfl, beginConnecting_sent offered⟩
    · by_cases answered : negotiation.progress = Role.answering.sent
      · exact .inr ⟨by rw [answered]; rfl, beginConnecting_sent answered⟩
      · simp only [Role.sent] at offered answered
        exact .inl (by simp [beginConnecting, isAwaitingIce, offered, answered])
  obtain ⟨state, ice⟩ : ∃ state, negotiation.ice = state := ⟨_, rfl⟩
  cases state with
  | new | disconnected | closed => exact .inl (by simp [followIce, ice])
  | failed =>
      by_cases ended : negotiation.progress = .iceFailed
      · exact .inl (by simp [followIce, ice, ended])
      · exact .inr (.inr (followIce_failed ice ended))
  | checking =>
      rcases begins with still | ⟨negotiated, begun⟩
      · exact .inl (by simp [followIce, ice, still])
      · exact .inr (.inl ⟨.connecting, [.connecting], negotiated, rfl,
          by simp [followIce, ice, begun]⟩)
  | connected | completed =>
      rcases begins with still | ⟨negotiated, begun⟩
      · by_cases connecting : negotiation.progress = .connecting
        · exact .inr (.inl ⟨.connected, [.connected], by rw [connecting]; rfl, rfl,
            by simp [followIce, ice, still, connecting, moveTo_connected]⟩)
        · exact .inl (by simp [followIce, ice, still, connecting])
      · exact .inr (.inl ⟨.connected, [.connecting, .connected], negotiated, rfl,
          by simp [followIce, ice, begun, moveTo_connected]⟩)

omit [MediaEngine ε] in
/-- A negotiation that has taken a side reports nothing, or its description for the first time. -/
theorem report_forms {side : Role} (role : negotiation.role = some side) :
    negotiation.report = (negotiation, []) ∨
      negotiation.described = false ∧ ∃ description, negotiation.report =
        ({ negotiation with described := true, progress := side.sent },
          [side.created description negotiation.localCandidates, .progressChanged side.sent]) := by
  by_cases ready : negotiation.described = false ∧ negotiation.progress = .initiated
  · obtain ⟨silent, initiated⟩ := ready
    cases known : negotiation.localDescription with
    | none => exact .inl (by simp [report, silent, initiated, known])
    | some description =>
        refine .inr ⟨silent, description, ?_⟩
        cases side <;>
          simp [report, silent, initiated, known, role, moveTo, Progress.canBecome, Role.sent,
            Role.created]
  · left
    have idle : (negotiation.described || decide (negotiation.progress ≠ .initiated)) = true := by
      cases described : negotiation.described <;> simp_all
    rw [report, if_pos idle]

end Negotiation

/-- Whether a notice carries a local description. -/
def Notice.hasDescription : Notice → Bool
  | .offerCreated _ _ | .answerCreated _ _ | .renegotiate _ _ => true
  | _ => false

/-- Whether a notice reports the first local description. -/
def Notice.isReport : Notice → Bool
  | .offerCreated _ _ | .answerCreated _ _ => true
  | _ => false

theorem Notice.isReport_of_plain {notice : Notice} (plain : notice.hasDescription = false) :
    notice.isReport = false := by
  cases notice <;> simp_all [Notice.hasDescription, Notice.isReport]

theorem Role.isReport_created (side : Role) (description : String) (candidates : List Candidate) :
    (side.created description candidates).isReport = true := by
  cases side <;> rfl

theorem Notice.hasDescription_stages (stages : List Progress) :
    ∀ notice ∈ stages.map Notice.progressChanged, notice.hasDescription = false := by
  intro notice told
  obtain ⟨stage, -, rfl⟩ := List.mem_map.mp told
  rfl

namespace Negotiation

variable {ε : Type} {negotiation : Negotiation ε} [MediaEngine ε]

/-- Everything that a callback can bring about while the pipeline is there. -/
inductive Response (before : Negotiation ε) : Negotiation ε × List Notice → Prop where
  | asks : Response before (before.tell .offer, [])
  | notes {after : Negotiation ε} (remembers : Remembers before after) :
      Response before (after, [])
  | follows {noted : Negotiation ε} (remembers : Remembers before noted) :
      Response before noted.followIce
  | reports {noted : Negotiation ε} (remembers : Remembers before noted) :
      Response before noted.reportAndFollow
  | renegotiates (described : before.described = true) (description : String)
      (kind : DescriptionKind) : Response before (before, [.renegotiate description kind])
  | tells {notices : List Notice} (plain : ∀ notice ∈ notices, notice.hasDescription = false) :
      Response before (before, notices)

/-- What a running negotiation does with a callback is one of the responses. -/
theorem response_handleRunning (callback : Engine.Callback) :
    Response negotiation (negotiation.handleRunning callback) := by
  have remembers : Remembers negotiation negotiation := ⟨rfl, rfl, rfl, rfl, rfl, rfl⟩
  cases callback with
  | negotiationNeeded =>
      rw [handleRunning]
      split
      · exact .asks
      · exact .notes remembers
  | localDescription description kind =>
      rw [handleRunning]
      split
      · rename_i described
        exact .renegotiates described description kind
      · dsimp only
        split
        · exact .reports ⟨rfl, rfl, rfl, rfl, rfl, rfl⟩
        · exact .notes ⟨rfl, rfl, rfl, rfl, rfl, rfl⟩
  | localCandidate candidate => exact .notes ⟨rfl, rfl, rfl, rfl, rfl, rfl⟩
  | gatheringComplete => exact .reports ⟨rfl, rfl, rfl, rfl, rfl, rfl⟩
  | iceChanged state => exact .follows ⟨rfl, rfl, rfl, rfl, rfl, rfl⟩
  | remoteStream stream medium =>
      simp only [handleRunning]
      split
      · exact .tells (by simp [Notice.hasDescription])
      · exact .notes remembers
  | pipelineFailed message => exact .tells (by simp [Notice.hasDescription])
  | endOfStream => exact .tells (by simp [Notice.hasDescription])

theorem pieces_followIce (up : negotiation.hasPipeline = true) :
    Pieces negotiation negotiation.followIce.1 := by
  rcases negotiation.followIce_forms with still | ⟨stage, stages, negotiated, later, moved⟩ | failed
  · rw [still]
  · rw [moved]
    exact .single (.follows up negotiated later)
  · rw [failed]
    exact .single (.fails up)

theorem pieces_reportAndFollow (up : negotiation.hasPipeline = true) {side : Role}
    (role : negotiation.role = some side) :
    Pieces negotiation negotiation.reportAndFollow.1 := by
  rcases report_forms role with still | ⟨_, description, reported⟩
  · have followed : negotiation.reportAndFollow.1 = negotiation.followIce.1 := by
      simp [reportAndFollow, still]
    rw [followed]
    exact pieces_followIce up
  · have reports : Piece negotiation { negotiation with described := true, progress := side.sent } :=
      .reports up role
    have follows := @pieces_followIce ε
      { negotiation with described := true, progress := side.sent } _ up
    simp only [reportAndFollow, reported]
    exact .head reports follows

/-- A callback is handled by pieces. -/
theorem pieces_handle (upright : negotiation.Upright) (callback : Engine.Callback) :
    Pieces negotiation (negotiation.handle callback).1 := by
  unfold handle
  split
  · rename_i up
    obtain ⟨side, role⟩ := upright.role up
    have response := negotiation.response_handleRunning callback
    generalize negotiation.handleRunning callback = result at response ⊢
    cases response with
    | asks => exact .single (.asks up rfl)
    | notes remembers => exact .single (.notes remembers)
    | follows remembers =>
        exact .head (.notes remembers) (pieces_followIce (remembers.pipeline.trans up))
    | reports remembers =>
        exact .head (.notes remembers)
          (pieces_reportAndFollow (remembers.pipeline.trans up) (remembers.role.trans role))
    | renegotiates | tells => exact .refl
  · exact .refl

/-- Every operation is made of pieces. -/
theorem Upright.pieces (upright : negotiation.Upright) (operation : Operation) :
    Pieces negotiation (negotiation.perform operation).1 := by
  cases operation with
  | start pipeline => exact pieces_start upright pipeline
  | acceptOffer pipeline offer candidates user =>
      exact pieces_acceptOffer upright pipeline offer candidates user
  | acceptAnswer answer candidates user => exact pieces_acceptAnswer upright answer candidates user
  | renegotiate description user isAnswer => exact pieces_renegotiate description user isAnswer
  | acceptCandidates candidates => exact pieces_acceptCandidates candidates
  | finish => exact pieces_finish upright
  | setMuted muted => exact pieces_setMuted muted
  | toggleCamera => exact pieces_toggleCamera
  | handle callback => exact pieces_handle upright callback

/-- An upright negotiation is upright after any operations. -/
theorem Upright.after (upright : negotiation.Upright) (operations : List Operation) :
    (negotiation.after operations).Upright :=
  after_induction upright (fun _ operation upright => (upright.pieces operation).upright upright)
    operations

end Negotiation

end RoomCall
