import RoomCall.Proofs.Negotiation.Pieces

/-!
# What always holds of a negotiation

Whatever is asked of a negotiation, in which order and however its engine behaves: its pipeline is
there exactly while it is not disconnected, no move is ever refused, the engine is asked for nothing
without a pipeline but to build one, and the first local description is reported at most once,
before all others. `Intact` puts this together.

A negotiation may be started again after it was taken down. It then has another pipeline, but its
report is not repeated.
-/

namespace RoomCall

/-! ## Taking turns at an engine -/

namespace Engine

/-- What may be asked of an engine, and whether its pipeline is there before and after that. -/
inductive Turn : Bool → Exchange → Bool → Prop where
  | built {pipeline : Pipeline} : Turn false ⟨.build pipeline, none⟩ true
  | unbuilt {pipeline : Pipeline} {fault : Fault} : Turn false ⟨.build pipeline, some fault⟩ false
  | used {request : Request} {fault : Option Fault} (use : request.isUse = true) :
      Turn true ⟨request, fault⟩ true
  | finished {fault : Option Fault} : Turn true ⟨.finish, fault⟩ false

/-- What may be asked of an engine in turn. -/
inductive Turns : Bool → List Exchange → Bool → Prop where
  | stop (isUp : Bool) : Turns isUp [] isUp
  | turn {before next after : Bool} {exchange : Exchange} {later : List Exchange}
      (turn : Turn before exchange next) (rest : Turns next later after) :
      Turns before (exchange :: later) after

/-- Whether a pipeline was built. -/
def Exchange.isBuilt (exchange : Exchange) : Bool :=
  match exchange with
  | ⟨.build _, none⟩ => true
  | _ => false

/-- Whether a pipeline was taken down. -/
def Exchange.isFinish (exchange : Exchange) : Bool :=
  match exchange with
  | ⟨.finish, _⟩ => true
  | _ => false

variable {before next after : Bool} {exchange : Exchange} {first second : List Exchange}

/-- What may be asked in turn may be continued in turn. -/
theorem Turns.append (earlier : Turns before first next) (later : Turns next second after) :
    Turns before (first ++ second) after := by
  induction earlier with
  | stop => exact later
  | turn turn _ ih => exact .turn turn (ih later)

theorem Turn.turns (turn : Turn before exchange after) : Turns before [exchange] after :=
  .turn turn (.stop after)

/-- Each exchange accounts for whether the pipeline is there afterwards. -/
theorem Turn.balance (turn : Turn before exchange after) :
    exchange.isBuilt.toNat + before.toNat = exchange.isFinish.toNat + after.toNat := by
  cases turn with
  | built | unbuilt | finished => rfl
  | @used request _ use =>
      cases request with
      | build | finish => cases use
      | _ => rfl

/-- Every pipeline that was built is taken down once, but for the one that is there. -/
theorem Turns.balance (turns : Turns before first after) :
    first.countP Exchange.isBuilt + before.toNat =
      first.countP Exchange.isFinish + after.toNat := by
  induction turns with
  | stop => rfl
  | @turn before next after exchange later turn _ ih =>
      have one := turn.balance
      have count (counts : Exchange → Bool) :
          (exchange :: later).countP counts = later.countP counts + (counts exchange).toNat := by
        rw [List.countP_cons]
        cases counts exchange <;> rfl
      rw [count, count]
      omega

end Engine

namespace Negotiation

variable {ε : Type} [MediaEngine ε] {negotiation before next after : Negotiation ε}

/-- Turns are taken at the engine on the way from one state to another. -/
def Drives (before after : Negotiation ε) : Prop :=
  ∃ requests, Traffic.requests after.traffic = Traffic.requests before.traffic ++ requests ∧
    after.engine = Engine.after before.engine requests ∧
    Engine.Turns before.hasPipeline (Engine.exchanges before.engine requests) after.hasPipeline

theorem drives_still (engine : after.engine = before.engine)
    (traffic : after.traffic = before.traffic)
    (pipeline : after.hasPipeline = before.hasPipeline) : Drives before after :=
  ⟨[], by simp [traffic], engine, pipeline ▸ .stop _⟩

/-- What is asked in two steps, each in turn, is asked in turn. -/
theorem Drives.trans (earlier : Drives before next) (later : Drives next after) :
    Drives before after := by
  rcases earlier with ⟨requests, traffic, engine, turns⟩
  rcases later with ⟨more, laterTraffic, laterEngine, laterTurns⟩
  refine ⟨requests ++ more, ?_, ?_, ?_⟩
  · rw [laterTraffic, traffic, List.append_assoc]
  · rw [laterEngine, engine, Engine.after_append]
  · rw [Engine.exchanges_append]
    exact turns.append (engine ▸ laterTurns)

/-- A request that may be asked takes one turn at the engine. -/
theorem drives_tell {request : Engine.Request} {isUp : Bool}
    (turn : Engine.Turn before.hasPipeline
      ⟨request, (MediaEngine.respond before.engine request).fault⟩ isUp)
    (engine : after.engine = (before.tell request).engine)
    (traffic : after.traffic = (before.tell request).traffic)
    (pipeline : after.hasPipeline = isUp) : Drives before after :=
  ⟨[request], by rw [traffic, requests_tell], engine, pipeline ▸ turn.turns⟩

theorem Piece.drives (piece : Piece before after) : Drives before after := by
  cases piece with
  | notes remembers => exact drives_still remembers.engine remembers.traffic remembers.pipeline
  | takesSide | reports | follows | fails => exact drives_still rfl rfl rfl
  | asks up use => exact drives_tell (up ▸ .used use) rfl rfl up
  | unbuilt down refused => exact drives_tell (by rw [down, refused]; exact .unbuilt) rfl rfl down
  | builds down _ consent => exact drives_tell (by rw [down, consent]; exact .built) rfl rfl rfl
  | finishes up => exact drives_tell (up ▸ .finished) rfl rfl rfl

/-- All that the pieces of an operation ask of the engine is asked in turn. -/
theorem Pieces.drives (pieces : Pieces before after) : Drives before after := by
  induction pieces with
  | refl => exact drives_still rfl rfl rfl
  | tail _ piece ih => exact ih.trans piece.drives

/-- Whatever is asked of a negotiation, it takes turns at its engine. -/
theorem Upright.drives (upright : negotiation.Upright) (operations : List Operation) :
    Drives negotiation (negotiation.after operations) := by
  induction operations generalizing negotiation with
  | nil => exact drives_still rfl rfl rfl
  | cons operation later ih =>
      have pieces := upright.pieces operation
      exact pieces.drives.trans (ih (pieces.upright upright))

/-! ## What is told of the local description -/

/-- What has been told of the local description, given whether it was reported: nothing, or first
the report and then anything but another one. -/
inductive Speech : Bool → List Notice → Prop where
  | silent {notices : List Notice} (plain : ∀ notice ∈ notices, notice.hasDescription = false) :
      Speech false notices
  | reported {early late : List Notice} {report : Notice}
      (plain : ∀ notice ∈ early, notice.hasDescription = false) (first : report.isReport = true)
      (once : ∀ notice ∈ late, notice.isReport = false) : Speech true (early ++ report :: late)

/-- What one operation tells of the local description. -/
inductive Speaks (before after : Negotiation ε) : List Notice → Prop where
  | plain {notices : List Notice} (same : after.described = before.described)
      (plain : ∀ notice ∈ notices, notice.hasDescription = false) : Speaks before after notices
  | renegotiates (described : before.described = true) (same : after.described = before.described)
      (description : String) (kind : DescriptionKind) :
      Speaks before after [.renegotiate description kind]
  | reports {side : Role} {later : List Notice} (role : before.role = some side)
      (silent : before.described = false) (described : after.described = true)
      (description : String) (candidates : List Candidate)
      (plain : ∀ notice ∈ later, notice.hasDescription = false) :
      Speaks before after (side.created description candidates :: later)

omit [MediaEngine ε] in
/-- What was told of the local description is continued by what one more operation tells. -/
theorem Speech.extend {told more : List Notice}
    (speech : Speech before.described told) (speaks : Speaks before after more) :
    Speech after.described (told ++ more) := by
  cases speaks with
  | plain same plain =>
      rw [same]
      generalize before.described = described at speech
      cases speech with
      | silent silent =>
          refine .silent fun notice there => ?_
          rcases List.mem_append.mp there with there | there
          · exact silent notice there
          · exact plain notice there
      | reported early first once =>
          rw [List.append_assoc, List.cons_append]
          refine .reported early first fun notice there => ?_
          rcases List.mem_append.mp there with there | there
          · exact once notice there
          · exact Notice.isReport_of_plain (plain notice there)
  | renegotiates described same description kind =>
      rw [same]
      rw [described] at speech ⊢
      cases speech with
      | reported early first once =>
          rw [List.append_assoc, List.cons_append]
          refine .reported early first fun notice there => ?_
          rcases List.mem_append.mp there with there | there
          · exact once notice there
          · rw [List.mem_singleton.mp there]
            rfl
  | @reports side later role silent described description candidates plain =>
      rw [silent] at speech
      rw [described]
      cases speech with
      | silent early =>
          exact .reported early (side.isReport_created description candidates)
            fun notice there => Notice.isReport_of_plain (plain notice there)

omit [MediaEngine ε] in
theorem described_followIce : negotiation.followIce.1.described = negotiation.described := by
  rw [followIce_fst]

omit [MediaEngine ε] in
theorem hasDescription_followIce :
    ∀ notice ∈ negotiation.followIce.2, notice.hasDescription = false := by
  rcases negotiation.followIce_forms with still | ⟨stage, stages, _, _, moved⟩ | failed
  · simp [still]
  · rw [moved]
    exact Notice.hasDescription_stages stages
  · simp [failed, Notice.hasDescription]

omit [MediaEngine ε] in
/-- A negotiation that reports for the first time tells its description, and otherwise tells none.
-/
theorem speaks_reportAndFollow {side : Role} (role : negotiation.role = some side) :
    Speaks negotiation negotiation.reportAndFollow.1 negotiation.reportAndFollow.2 := by
  rcases report_forms role with still | ⟨silent, description, reported⟩
  · have followed : negotiation.reportAndFollow = negotiation.followIce := by
      simp [reportAndFollow, still]
    rw [followed]
    exact .plain described_followIce hasDescription_followIce
  · simp only [reportAndFollow, reported, List.cons_append, List.nil_append]
    refine .reports role silent ?_ description _ fun notice there => ?_
    · exact described_followIce
    · rcases List.mem_cons.mp there with rfl | there
      · rfl
      · exact hasDescription_followIce notice there

omit [MediaEngine ε] in
/-- What is only remembered does not change what is told. -/
theorem Speaks.congr {noted : Negotiation ε} {notices : List Notice}
    (remembers : Remembers before noted) (speaks : Speaks noted after notices) :
    Speaks before after notices := by
  cases speaks with
  | plain same plain => exact .plain (same.trans remembers.described) plain
  | renegotiates described same description kind =>
      exact .renegotiates (remembers.described.symm.trans described)
        (same.trans remembers.described) description kind
  | reports role silent described description candidates plain =>
      exact .reports (remembers.role.symm.trans role) (remembers.described.symm.trans silent)
        described description candidates plain

/-- What a callback makes a negotiation tell of its description fits what was told before. -/
theorem speaks_handle (upright : negotiation.Upright) (callback : Engine.Callback) :
    Speaks negotiation (negotiation.handle callback).1 (negotiation.handle callback).2 := by
  unfold handle
  split
  · rename_i up
    obtain ⟨side, role⟩ := upright.role up
    have response := negotiation.response_handleRunning callback
    generalize negotiation.handleRunning callback = result at response ⊢
    cases response with
    | asks => exact .plain rfl (by simp)
    | notes remembers => exact .plain remembers.described (by simp)
    | follows remembers =>
        exact .congr remembers (.plain described_followIce hasDescription_followIce)
    | reports remembers =>
        exact .congr remembers (speaks_reportAndFollow (remembers.role.trans role))
    | renegotiates described description kind =>
        exact .renegotiates described rfl description kind
    | tells plain => exact .plain rfl plain
  · exact .plain rfl (by simp)

omit [MediaEngine ε] in
/-- An operation that tells nothing and keeps what was reported. -/
theorem Speaks.quiet (same : after.described = before.described) :
    Speaks before after [] :=
  .plain same (by simp)

theorem speaks_start (upright : negotiation.Upright) (pipeline : Engine.Pipeline) :
    Speaks negotiation (negotiation.start pipeline).1
      (Outcome.of .telling (negotiation.start pipeline).2).notices := by
  unfold start
  split
  · exact .plain rfl (by simp [Outcome.of, Outcome.telling])
  · rename_i idle
    rcases build_pieces upright (Decidable.not_not.mp idle) .offering pipeline with
      ⟨failed, fault, refused, same, -⟩ | ⟨built, begun, -, same, -⟩
    · rw [refused]
      exact .plain same (by simp [Outcome.of])
    · rw [begun]
      exact .plain same (Notice.hasDescription_stages openingStages)

theorem speaks_acceptOffer (upright : negotiation.Upright) (pipeline : Engine.Pipeline)
    (offer : String) (candidates : List Candidate) (user : UserId) :
    Speaks negotiation (negotiation.acceptOffer pipeline offer candidates user).1
      (Outcome.of .telling (negotiation.acceptOffer pipeline offer candidates user).2).notices := by
  unfold acceptOffer
  split
  · exact .plain rfl (by simp [Outcome.of])
  · split
    · exact .plain rfl (by simp [Outcome.of])
    · rename_i idle _
      rcases build_pieces upright (Decidable.not_not.mp idle) .answering pipeline with
        ⟨failed, fault, refused, same, -⟩ | ⟨built, begun, -, same, -⟩
      · rw [refused]
        exact .plain same (by simp [Outcome.of])
      · rw [begun]
        have still : (built.applyRemote offer .offer user).1.described = negotiation.described :=
          same
        dsimp only
        generalize built.applyRemote offer .offer user = reply at still ⊢
        rcases reply with ⟨taken, _ | fault⟩
        · refine .plain ?_ (Notice.hasDescription_stages openingStages)
          simpa using still
        · exact .plain still (by simp [Outcome.of])

theorem speaks_acceptAnswer (answer : String) (candidates : List Candidate) (user : UserId) :
    Speaks negotiation (negotiation.acceptAnswer answer candidates user).1 [] := by
  unfold acceptAnswer
  split
  · exact .quiet rfl
  · have still : (negotiation.applyRemote answer .answer user).1.described =
        negotiation.described := rfl
    generalize negotiation.applyRemote answer .answer user = reply at still ⊢
    rcases reply with ⟨taken, _ | fault⟩
    · exact .quiet (by simpa using still)
    · exact .quiet still

theorem speaks_finish :
    Speaks negotiation negotiation.finish.1 negotiation.finish.2 := by
  have stays : negotiation.finish.1.described = negotiation.described := by
    rw [finish_eq, moveTo_fst]
    split <;> rfl
  have told (ended : Negotiation ε) :
      ∀ notice ∈ (ended.moveTo .disconnected).2, notice.hasDescription = false := by
    unfold moveTo
    split <;> simp [Notice.hasDescription]
  refine .plain stays ?_
  rw [finish_eq]
  exact told _

/-- What any operation tells of the local description fits what was told before. -/
theorem Upright.speaks (upright : negotiation.Upright) (operation : Operation) :
    Speaks negotiation (negotiation.perform operation).1
      (negotiation.perform operation).2.notices := by
  cases operation with
  | start pipeline => exact speaks_start upright pipeline
  | acceptOffer pipeline offer candidates user =>
      exact speaks_acceptOffer upright pipeline offer candidates user
  | acceptAnswer answer candidates user =>
      change Speaks _ _ (Outcome.of _ _).notices
      rw [Outcome.notices_of_quiet fun _ => rfl]
      exact speaks_acceptAnswer answer candidates user
  | renegotiate description user isAnswer =>
      change Speaks _ _ (Outcome.of _ _).notices
      rw [Outcome.notices_of_quiet fun _ => rfl]
      exact .quiet (described_renegotiate description user isAnswer)
  | acceptCandidates candidates =>
      refine .quiet ?_
      rw [perform, acceptCandidates]
      split <;> simp
  | finish => exact speaks_finish
  | setMuted muted =>
      change Speaks _ _ (Outcome.of _ _).notices
      rw [Outcome.notices_of_quiet fun _ => rfl]
      exact .quiet (described_setMuted muted)
  | toggleCamera =>
      change Speaks _ _ (Outcome.of _ _).notices
      rw [Outcome.notices_of_quiet fun _ => rfl]
      exact .quiet described_toggleCamera
  | handle callback => exact speaks_handle upright callback

/-- What has been told of the description stays in order, whatever is asked. -/
theorem Upright.speech {told : List Notice} (upright : negotiation.Upright)
    (speech : Speech negotiation.described told) (operations : List Operation) :
    Speech (negotiation.after operations).described (told ++ negotiation.notices operations) := by
  induction operations generalizing negotiation told with
  | nil => simpa using speech
  | cons operation later ih =>
      rw [after_cons, notices_cons, ← List.append_assoc]
      exact ih ((upright.pieces operation).upright upright)
        (speech.extend (upright.speaks operation))

namespace Speech

variable {described : Bool} {told : List Notice}

/-- The local description is reported at most once. -/
theorem countP_isReport_le (speech : Speech described told) :
    told.countP Notice.isReport ≤ 1 := by
  have unheard {notices : List Notice} (quiet : ∀ notice ∈ notices, notice.isReport = false) :
      notices.countP Notice.isReport = 0 :=
    List.countP_eq_zero.mpr fun notice there => by simp [quiet notice there]
  have unsaid {notices : List Notice} (plain : ∀ notice ∈ notices, notice.hasDescription = false) :
      notices.countP Notice.isReport = 0 :=
    unheard fun notice there => Notice.isReport_of_plain (plain notice there)
  cases speech with
  | silent plain =>
      have none := unsaid plain
      omega
  | reported plain first once =>
      have before := unsaid plain
      have after := unheard once
      rw [List.countP_append, List.countP_cons, if_pos first]
      omega

/-- Once the local description counts as reported, the report is among what was told. -/
theorem exists_isReport (speech : Speech true told) : ∃ notice ∈ told, notice.isReport = true := by
  cases speech with
  | reported _ first _ => exact ⟨_, by simp, first⟩

/-- Whatever is told of a description comes after the report, but for the report itself. -/
theorem exists_isReport_of_renegotiate (speech : Speech described told) {early late : List Notice}
    {description : String} {kind : DescriptionKind}
    (heard : told = early ++ .renegotiate description kind :: late) :
    ∃ notice ∈ early, notice.isReport = true := by
  cases speech with
  | silent plain =>
      have absent := plain (.renegotiate description kind) (by simp [heard])
      simp [Notice.hasDescription] at absent
  | @reported before after report plain first once =>
      rcases List.append_eq_append_iff.mp heard with ⟨between, rfl, rest⟩ | ⟨between, rfl, rest⟩
      · cases between with
        | nil =>
            rw [(List.cons.inj rest).1] at first
            simp [Notice.isReport] at first
        | cons notice between =>
            exact ⟨report, by simp [(List.cons.inj rest).1], first⟩
      · cases between with
        | nil =>
            rw [← (List.cons.inj rest).1] at first
            simp [Notice.isReport] at first
        | cons notice between =>
            have absent := plain notice (by simp)
            rw [← (List.cons.inj rest).1] at absent
            simp [Notice.hasDescription] at absent

end Speech

/-! ## All of it -/

/-- What holds of a negotiation after some operations, and of everything it has told and asked so
far. -/
structure Intact (start : Negotiation ε) (operations : List Operation) : Prop where
  /-- The pipeline is there exactly while the negotiation is not disconnected. -/
  pipeline : (start.after operations).hasPipeline = true ↔
    (start.after operations).progress ≠ .disconnected
  /-- Beyond the first stage with a pipeline the local description has been reported. -/
  reported : Progress.initiated.rank < (start.after operations).progress.rank →
    (start.after operations).described = true ∧
      ∃ notice ∈ start.notices operations, notice.isReport = true
  /-- The next operation is refused no move. -/
  unrefused : ∀ move : Mover ε, move.Agrees → ∀ operation,
    (start.after operations).perform operation move = (start.after operations).perform operation
  once : (start.notices operations).countP Notice.isReport ≤ 1
  /-- What the next operation reports is what the side creates that the negotiation is on. -/
  fitting : ∀ operation, ∀ notice ∈ ((start.after operations).perform operation).2.notices,
    notice.isReport = true → ∃ side description candidates,
      (start.after operations).role = some side ∧ notice = side.created description candidates
  renegotiated : ∀ early late description kind,
    start.notices operations = early ++ .renegotiate description kind :: late →
      ∃ notice ∈ early, notice.isReport = true
  muted : (start.after operations).isMuted = true →
    (start.after operations).progress = .connecting ∨ (start.after operations).progress = .connected
  /-- The engine has answered the requests that are kept, each in its turn. -/
  engine : (start.after operations).engine =
    Engine.after start.engine (Traffic.requests (start.after operations).traffic)
  turns : Engine.Turns false
    (Engine.exchanges start.engine (Traffic.requests (start.after operations).traffic))
    (start.after operations).hasPipeline
  /-- Each pipeline that was built was taken down once, but for the one that is there. -/
  finishes :
    (Engine.exchanges start.engine (Traffic.requests (start.after operations).traffic)).countP
        Engine.Exchange.isFinish + (start.after operations).hasPipeline.toNat =
      (Engine.exchanges start.engine (Traffic.requests (start.after operations).traffic)).countP
        Engine.Exchange.isBuilt

theorem isNegotiated_of_rank {stage : Progress} (beyond : Progress.initiated.rank < stage.rank) :
    stage.isNegotiated = true := by
  cases stage <;> simp_all [Progress.rank, Progress.isNegotiated]

/-- A negotiation is muted only while paths are tried or one works. -/
theorem progress_of_isMuted (muted : negotiation.isMuted = true) :
    negotiation.progress = .connecting ∨ negotiation.progress = .connected := by
  simp only [isMuted, canMute, Bool.and_eq_true, decide_eq_true_eq] at muted
  obtain ⟨⟨-, reached⟩, -⟩ := muted
  cases stage : negotiation.progress <;> simp_all [Progress.rank]

/-- Whatever is asked of a new negotiation and whatever its engine does, it stays intact. -/
theorem intact_fresh (id : SessionId) (engine : ε) (operations : List Operation) :
    Intact (fresh id engine) operations := by
  have upright := (upright_fresh id engine).after operations
  have speech : Speech ((fresh id engine).after operations).described
      ((fresh id engine).notices operations) := by
    have silent : Speech (fresh id engine).described [] := .silent (by simp)
    simpa using (upright_fresh id engine).speech silent operations
  obtain ⟨requests, traffic, answered, turns⟩ := (upright_fresh id engine).drives operations
  have asked : Traffic.requests ((fresh id engine).after operations).traffic = requests := by
    rw [traffic]
    rfl
  have balance := turns.balance
  refine ⟨upright.pipeline, fun beyond => ?_, fun move agrees => perform_of_agrees agrees,
    speech.countP_isReport_le, ?_, fun early late description kind =>
    speech.exists_isReport_of_renegotiate, progress_of_isMuted, ?_, ?_, ?_⟩
  · have described := upright.described (isNegotiated_of_rank beyond)
    rw [described] at speech
    exact ⟨described, speech.exists_isReport⟩
  · intro operation notice there report
    have speaks := upright.speaks operation
    generalize ((fresh id engine).after operations).perform operation = reply at there speaks
    rcases reply with ⟨next, notices, _, _⟩
    cases speaks with
    | plain _ plain => simp [Notice.isReport_of_plain (plain notice there)] at report
    | renegotiates =>
        rw [List.mem_singleton.mp there] at report
        simp [Notice.isReport] at report
    | @reports side later role silent described description candidates plain =>
        rcases List.mem_cons.mp there with rfl | there
        · exact ⟨side, description, candidates, role, rfl⟩
        · simp [Notice.isReport_of_plain (plain notice there)] at report
  · rw [asked]
    exact answered
  · rw [asked]
    exact turns
  · rw [asked]
    have none : (fresh id engine).hasPipeline.toNat = 0 := rfl
    rw [none] at balance
    exact balance.symm

end Negotiation

end RoomCall
