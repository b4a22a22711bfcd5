import RoomCall.Phone.Pump

/-!
# A negotiation that is under way

Between two operations a negotiation with a pipeline is at one of two points: it has not reported
its local description and is `initiated`, or it has reported it and stands at a stage that follows
the report. `Negotiation.Runs` says so, and `Negotiation.Reaction` lists everything that a callback
can bring about from there. What a phone does with notices is decided from this list alone.

The last section gives the requests that each operation makes of the engine.
-/

namespace RoomCall

namespace Progress

/-- A walk through some stages, each of which may follow the one before. -/
inductive Walk : Progress → List Progress → Progress → Prop where
  | stay (stage : Progress) : Walk stage [] stage
  | move {stage next final : Progress} {later : List Progress}
      (allowed : stage.canBecome next = true) (rest : Walk next later final) :
      Walk stage (next :: later) final

end Progress

namespace Role

/-- The stage at which a side has just reported its description. -/
def sent : Role → Progress
  | .offering => .offerSent
  | .answering => .answerSent

/-- The notice by which a side reports its description. -/
def created : Role → String → List Candidate → Notice
  | .offering => .offerCreated
  | .answering => .answerCreated

end Role

namespace Traffic

@[simp]
theorem requests_nil : requests [] = [] := rfl

@[simp]
theorem requests_append (first second : List Traffic) :
    requests (first ++ second) = requests first ++ requests second :=
  List.filterMap_append

@[simp]
theorem requests_request (content : Engine.Request) (later : List Traffic) :
    requests (.request content :: later) = content :: requests later := rfl

@[simp]
theorem requests_callbacks (contents : List Engine.Callback) :
    requests (contents.map .callback) = [] := by
  induction contents with
  | nil => rfl
  | cons content later ih => simp [requests]

end Traffic

/-- The candidates of a list that offer a path. -/
def Candidate.usable (candidates : List Candidate) : List Candidate :=
  candidates.filter fun candidate => !candidate.isEndMark

@[simp]
theorem Candidate.usable_nil : Candidate.usable [] = [] := rfl

@[simp]
theorem Candidate.usable_append (first second : List Candidate) :
    Candidate.usable (first ++ second) = Candidate.usable first ++ Candidate.usable second :=
  List.filter_append ..

namespace Negotiation

variable {ε : Type} {side : Role} {negotiation : Negotiation ε}

/-- A negotiation that is under way on a side. -/
structure Runs (side : Role) (negotiation : Negotiation ε) : Prop where
  role : negotiation.role = some side
  pipeline : negotiation.hasPipeline = true
  standing :
    (negotiation.described = false ∧ negotiation.progress = .initiated) ∨
      (negotiation.described = true ∧
        (negotiation.progress = side.sent ∨ negotiation.progress = .connecting ∨
          negotiation.progress = .connected))

namespace Runs

/-- A running negotiation that has reported nothing is in the first stage. -/
theorem progress_initiated (runs : negotiation.Runs side) (silent : negotiation.described = false) :
    negotiation.progress = .initiated := by
  rcases runs.standing with ⟨_, initiated⟩ | ⟨described, _⟩
  · exact initiated
  · simp [silent] at described

/-- A running negotiation that has reported its description is past the first stage. -/
theorem progress_described (runs : negotiation.Runs side)
    (described : negotiation.described = true) :
    negotiation.progress = side.sent ∨ negotiation.progress = .connecting ∨
      negotiation.progress = .connected := by
  rcases runs.standing with ⟨silent, _⟩ | ⟨_, stages⟩
  · simp [silent] at described
  · exact stages

/-- The stage tells whether the description was reported. -/
theorem isNegotiated_eq (runs : negotiation.Runs side) :
    negotiation.progress.isNegotiated = negotiation.described := by
  rcases runs.standing with ⟨silent, initiated⟩ | ⟨described, sent | connecting | connected⟩
  · rw [silent, initiated]
    rfl
  · rw [described, sent]
    cases side <;> rfl
  · rw [described, connecting]
    rfl
  · rw [described, connected]
    rfl

theorem progress_ne_iceFailed (runs : negotiation.Runs side) :
    negotiation.progress ≠ .iceFailed := by
  rcases runs.standing with ⟨_, initiated⟩ | ⟨_, sent | connecting | connected⟩
  · simp [initiated]
  · rw [sent]
    cases side <;> simp [Role.sent]
  · simp [connecting]
  · simp [connected]

/-- Whether a negotiation is under way does not depend on what else it remembers. -/
theorem congr {other : Negotiation ε} (runs : negotiation.Runs side)
    (role : other.role = negotiation.role) (pipeline : other.hasPipeline = negotiation.hasPipeline)
    (described : other.described = negotiation.described)
    (progress : other.progress = negotiation.progress) : other.Runs side where
  role := role.trans runs.role
  pipeline := pipeline.trans runs.pipeline
  standing := by
    rw [described, progress]
    exact runs.standing

end Runs

/-- Everything that a callback can bring about in a negotiation that is under way: the notices it
gives, and how far it comes. -/
inductive Reaction (side : Role) (before after : Negotiation ε) : List Notice → Prop where
  /-- The search for a path moves on, or nothing is to be told. -/
  | moved {stages : List Progress} (runs : after.Runs side)
      (same : after.described = before.described)
      (walk : Progress.Walk before.progress stages after.progress) :
      Reaction side before after (stages.map .progressChanged)
  /-- The local description is reported, and the search is followed. -/
  | reported {stages : List Progress} (runs : after.Runs side)
      (silent : before.described = false) (described : after.described = true)
      (description : String) (candidates : List Candidate)
      (walk : Progress.Walk side.sent stages after.progress) :
      Reaction side before after
        (side.created description candidates :: (side.sent :: stages).map .progressChanged)
  /-- A new local description is ready. -/
  | renegotiated (runs : after.Runs side) (described : before.described = true)
      (same : after.described = before.described) (still : after.progress = before.progress)
      (description : String) (kind : DescriptionKind) :
      Reaction side before after [.renegotiate description kind]
  /-- Video arrives. -/
  | watched (runs : after.Runs side) (same : after.described = before.described)
      (still : after.progress = before.progress) (user : UserId) :
      Reaction side before after [.remoteVideo user]
  /-- The pipeline breaks. -/
  | broken (runs : after.Runs side) (message : String) :
      Reaction side before after [.failed (.mediaFailed message)]
  /-- No path was found. -/
  | lost (failed : after.progress = .iceFailed) :
      Reaction side before after [.progressChanged .iceFailed, .failed .iceFailed]
  /-- The local description is reported although no path was found. -/
  | reportedLost (silent : before.described = false) (failed : after.progress = .iceFailed)
      (ice : before.ice = .failed) (description : String) (candidates : List Candidate) :
      Reaction side before after
        [side.created description candidates, .progressChanged side.sent,
          .progressChanged .iceFailed, .failed .iceFailed]

theorem moveTo_of_canBecome {stage : Progress}
    (allowed : negotiation.progress.canBecome stage = true) :
    negotiation.moveTo stage = ({ negotiation with progress := stage }, [.progressChanged stage]) := by
  simp [moveTo, allowed]

/-- A negotiation whose search has failed says so, once. -/
theorem followIce_failed (ice : negotiation.ice = .failed)
    (progress : negotiation.progress ≠ .iceFailed) :
    negotiation.followIce = ({ negotiation with progress := .iceFailed },
      [.progressChanged .iceFailed, .failed .iceFailed]) := by
  have allowed : negotiation.progress.canBecome .iceFailed = true := by
    cases stage : negotiation.progress <;> simp_all [Progress.canBecome]
  simp [followIce, ice, progress, moveTo_of_canBecome allowed]

/-- Before the description is reported the search is not followed, unless it failed. -/
theorem followIce_initiated (ice : negotiation.ice ≠ .failed)
    (initiated : negotiation.progress = .initiated) : negotiation.followIce = (negotiation, []) := by
  cases state : negotiation.ice <;>
    simp_all [followIce, beginConnecting, isAwaitingIce]

theorem beginConnecting_sent (sent : negotiation.progress = side.sent) :
    negotiation.beginConnecting =
      ({ negotiation with progress := .connecting }, [.progressChanged .connecting]) := by
  have awaiting : negotiation.isAwaitingIce = true := by
    rw [isAwaitingIce, sent]
    cases side <;> rfl
  have allowed : negotiation.progress.canBecome .connecting = true := by
    rw [sent]
    cases side <;> rfl
  simp [beginConnecting, awaiting, moveTo_of_canBecome allowed]

theorem beginConnecting_begun
    (begun : negotiation.progress = .connecting ∨ negotiation.progress = .connected) :
    negotiation.beginConnecting = (negotiation, []) := by
  rcases begun with stage | stage <;> simp [beginConnecting, isAwaitingIce, stage]

theorem moveTo_connected (connecting : negotiation.progress = .connecting) :
    negotiation.moveTo .connected =
      ({ negotiation with progress := .connected }, [.progressChanged .connected]) :=
  moveTo_of_canBecome (by rw [connecting]; rfl)

/-- After the report the stage follows the search. -/
theorem followIce_described (ice : negotiation.ice ≠ .failed) (runs : negotiation.Runs side)
    (described : negotiation.described = true) :
    ∃ stage stages, negotiation.followIce =
        ({ negotiation with progress := stage }, stages.map .progressChanged) ∧
      Progress.Walk negotiation.progress stages stage ∧
      (stage = side.sent ∨ stage = .connecting ∨ stage = .connected) := by
  have still : ∃ stage stages, (negotiation, ([] : List Notice)) =
        ({ negotiation with progress := stage }, stages.map .progressChanged) ∧
      Progress.Walk negotiation.progress stages stage ∧
      (stage = side.sent ∨ stage = .connecting ∨ stage = .connected) :=
    ⟨negotiation.progress, [], rfl, .stay _, runs.progress_described described⟩
  have toConnecting : negotiation.progress = side.sent →
      negotiation.progress.canBecome .connecting = true := by
    intro sent
    rw [sent]
    cases side <;> rfl
  cases state : negotiation.ice with
  | new | disconnected | closed => simpa [followIce, state] using still
  | failed => exact absurd state ice
  | checking =>
      rcases runs.progress_described described with sent | begun
      · refine ⟨.connecting, [.connecting], ?_, .move (toConnecting sent) (.stay _),
          .inr (.inl rfl)⟩
        simp [followIce, state, beginConnecting_sent sent]
      · simpa [followIce, state, beginConnecting_begun begun] using still
  | connected | completed =>
      rcases runs.progress_described described with sent | stage | stage
      · refine ⟨.connected, [.connecting, .connected], ?_,
          .move (toConnecting sent) (.move rfl (.stay _)), .inr (.inr rfl)⟩
        simp [followIce, state, beginConnecting_sent sent, moveTo_connected]
      · refine ⟨.connected, [.connected], ?_, .move (by rw [stage]; rfl) (.stay _),
          .inr (.inr rfl)⟩
        simp [followIce, state, beginConnecting_begun (.inl stage), stage, moveTo_connected]
      · simpa [followIce, state, beginConnecting_begun (.inr stage), stage] using still

/-- Reporting does nothing unless a description is there that was not reported. -/
theorem report_cases (runs : negotiation.Runs side) :
    negotiation.report = (negotiation, []) ∨
      negotiation.described = false ∧ ∃ description, negotiation.report =
        ({ negotiation with described := true, progress := side.sent },
          [side.created description negotiation.localCandidates, .progressChanged side.sent]) := by
  by_cases described : negotiation.described = true
  · left
    simp [report, described]
  · have silent : negotiation.described = false := by simpa using described
    have initiated := runs.progress_initiated silent
    cases there : negotiation.localDescription with
    | none =>
        left
        simp [report, silent, initiated, there]
    | some description =>
        right
        refine ⟨silent, description, ?_⟩
        cases side <;>
          simp [report, silent, initiated, there, runs.role, moveTo, Progress.canBecome, Role.sent,
            Role.created]

/-- A negotiation that tells nothing and only remembers something. -/
theorem Reaction.quiet {before after : Negotiation ε} (runs : after.Runs side)
    (described : after.described = before.described) (progress : after.progress = before.progress) :
    Reaction side before after [] :=
  @Reaction.moved ε side before after [] runs described (progress ▸ .stay _)

/-- Following the search is a reaction, which starts from wherever the stage and the report were the
same. -/
theorem reaction_followIce {before : Negotiation ε} (runs : negotiation.Runs side)
    (described : negotiation.described = before.described)
    (progress : negotiation.progress = before.progress) :
    Reaction side before negotiation.followIce.1 negotiation.followIce.2 := by
  by_cases ice : negotiation.ice = .failed
  · rw [followIce_failed ice runs.progress_ne_iceFailed]
    exact .lost rfl
  · by_cases reported : negotiation.described = true
    · rcases followIce_described ice runs reported with ⟨stage, stages, equation, walk, standing⟩
      have followed : Runs side { negotiation with progress := stage } :=
        ⟨runs.role, runs.pipeline, .inr ⟨reported, standing⟩⟩
      rw [equation]
      exact .moved followed described (progress ▸ walk)
    · have silent : negotiation.described = false := by simpa using reported
      rw [followIce_initiated ice (runs.progress_initiated silent)]
      exact .quiet runs described progress

/-- A report and what follows it are a reaction of the negotiation. -/
theorem reaction_reportAndFollow {before : Negotiation ε} (runs : negotiation.Runs side)
    (described : negotiation.described = before.described)
    (progress : negotiation.progress = before.progress) (ice : negotiation.ice = before.ice) :
    Reaction side before negotiation.reportAndFollow.1 negotiation.reportAndFollow.2 := by
  rcases report_cases runs with quiet | ⟨silent, description, equation⟩
  · simpa [reportAndFollow, quiet] using reaction_followIce runs described progress
  · have before : before.described = false := described.symm.trans silent
    have sent : Runs side { negotiation with described := true, progress := side.sent } :=
      ⟨runs.role, runs.pipeline, .inr ⟨rfl, .inl rfl⟩⟩
    by_cases lost : negotiation.ice = .failed
    · have failed := @followIce_failed ε
        { negotiation with described := true, progress := side.sent } lost sent.progress_ne_iceFailed
      simp only [reportAndFollow, equation, failed]
      exact .reportedLost before rfl (ice.symm.trans lost) description negotiation.localCandidates
    · rcases @followIce_described ε side
          { negotiation with described := true, progress := side.sent } lost sent rfl with
        ⟨stage, stages, followed, walk, standing⟩
      have final : Runs side { negotiation with described := true, progress := stage } :=
        ⟨runs.role, runs.pipeline, .inr ⟨rfl, standing⟩⟩
      simp only [reportAndFollow, equation, followed]
      exact .reported final before rfl description negotiation.localCandidates walk

/-- Whatever a callback brings about in a negotiation that is under way is a reaction. -/
theorem reaction_handle [MediaEngine ε] (runs : negotiation.Runs side)
    (callback : Engine.Callback) :
    Reaction side negotiation (negotiation.handle callback).1 (negotiation.handle callback).2 := by
  rw [handle, if_pos runs.pipeline]
  cases callback with
  | negotiationNeeded =>
      rw [handleRunning]
      split
      · exact .quiet (runs.congr rfl rfl rfl rfl) rfl rfl
      · exact .quiet runs rfl rfl
  | localDescription description kind =>
      by_cases described : negotiation.described = true
      · simpa [handleRunning, described] using
          Reaction.renegotiated runs described rfl rfl description kind
      · have silent : negotiation.described = false := by simpa using described
        have known : Runs side { negotiation with localDescription := some description } :=
          runs.congr rfl rfl rfl rfl
        by_cases gathered : negotiation.gathered = true
        · have step : negotiation.handleRunning (.localDescription description kind) =
              ({ negotiation with localDescription := some description } :
                Negotiation ε).reportAndFollow := by
            simp [handleRunning, silent, gathered]
          rw [step]
          exact reaction_reportAndFollow known rfl rfl rfl
        · have step : negotiation.handleRunning (.localDescription description kind) =
              ({ negotiation with localDescription := some description }, []) := by
            simp [handleRunning, silent, gathered]
          rw [step]
          exact .quiet known rfl rfl
  | localCandidate candidate => exact .quiet (runs.congr rfl rfl rfl rfl) rfl rfl
  | gatheringComplete =>
      have gathered : Runs side { negotiation with gathered := true } := runs.congr rfl rfl rfl rfl
      exact reaction_reportAndFollow gathered rfl rfl rfl
  | iceChanged state =>
      have heard : Runs side { negotiation with ice := state } := runs.congr rfl rfl rfl rfl
      exact reaction_followIce heard rfl rfl
  | remoteStream stream medium =>
      simp only [handleRunning]
      split
      · exact .watched runs rfl rfl _
      · exact .quiet runs rfl rfl
  | pipelineFailed message => exact .broken runs message
  | endOfStream => exact .broken runs _

end Negotiation

end RoomCall
