import RoomCall.Engine.Scripted
import RoomCall.Proofs.Negotiation.Foresight

/-!
# Negotiations with a scripted engine

A scripted engine that connects refuses nothing that a call asks of it. On either side a negotiation
with such an engine gets under way, and the callbacks that are posted then lead to the report of what
the script says. An answer is taken, and what is posted then leads to a connection.
-/

namespace RoomCall

open Engine (Scripted Script)

/-- The description that a script has for a side. -/
def Engine.Script.description (script : Script) : Role → String
  | .offering => script.offer
  | .answering => script.answer

namespace Traffic

@[simp]
theorem callbacks_nil : callbacks [] = [] := rfl

@[simp]
theorem callbacks_append (first second : List Traffic) :
    callbacks (first ++ second) = callbacks first ++ callbacks second :=
  List.filterMap_append

@[simp]
theorem callbacks_request (content : Engine.Request) (later : List Traffic) :
    callbacks (.request content :: later) = callbacks later := rfl

@[simp]
theorem callbacks_callback (content : Engine.Callback) (later : List Traffic) :
    callbacks (.callback content :: later) = content :: callbacks later := rfl

@[simp]
theorem callbacks_callbacks (contents : List Engine.Callback) :
    callbacks (contents.map .callback) = contents := by
  induction contents with
  | nil => rfl
  | cons content later ih => rw [List.map_cons, callbacks_callback, ih]

@[simp]
theorem callbacks_requests (contents : List Engine.Request) :
    callbacks (contents.map .request) = [] := by
  induction contents with
  | nil => rfl
  | cons content later ih => rw [List.map_cons, callbacks_request, ih]

end Traffic

namespace Negotiation

variable {script : Script} {negotiation : Negotiation Scripted}

/-- The engine of a negotiation runs and follows a script. -/
structure Performs (script : Script) (negotiation : Negotiation Scripted) : Prop where
  script : negotiation.engine.script = script
  running : negotiation.engine.running = true

theorem addRemoteCandidates_scripted (candidates : List Candidate) :
    negotiation.addRemoteCandidates candidates =
      negotiation.onEngine
        { negotiation.engine with
          remoteCandidates := negotiation.engine.remoteCandidates ++ Candidate.usable candidates }
        (negotiation.traffic ++ (candidateRequests candidates).map .request) := by
  unfold addRemoteCandidates candidateRequests Candidate.usable
  cases candidates.filter fun candidate => !candidate.isEndMark with
  | nil => simp [onEngine]
  | cons first later => rfl

/-- Candidates are added to those that the engine has, and nothing is posted. -/
theorem Performs.addRemoteCandidates (performs : negotiation.Performs script)
    (candidates : List Candidate) : (negotiation.addRemoteCandidates candidates).Performs script := by
  rw [addRemoteCandidates_scripted]
  exact ⟨performs.script, performs.running⟩

@[simp]
theorem remoteCandidates_addRemoteCandidates (candidates : List Candidate) :
    (negotiation.addRemoteCandidates candidates).engine.remoteCandidates =
      negotiation.engine.remoteCandidates ++ Candidate.usable candidates := by
  rw [addRemoteCandidates_scripted]
  rfl

@[simp]
theorem callbacks_addRemoteCandidates (candidates : List Candidate) :
    Traffic.callbacks (negotiation.addRemoteCandidates candidates).traffic =
      Traffic.callbacks negotiation.traffic := by
  rw [addRemoteCandidates_scripted]
  change Traffic.callbacks (negotiation.traffic ++ _) = _
  rw [Traffic.callbacks_append, Traffic.callbacks_requests, List.append_nil]

/-- What the start of a negotiation with a scripted engine leads to. -/
structure Prepares (side : Role) (script : Script) (remote : List Candidate)
    (negotiation : Negotiation Scripted) : Prop where
  runs : negotiation.Runs side
  silent : negotiation.described = false
  performs : negotiation.Performs script
  remote : negotiation.engine.remoteCandidates = remote
  leads : negotiation.Leads side (script.description side) script.candidates
    (Traffic.callbacks negotiation.traffic)

/-- A negotiation that has not begun, with an engine that has just been made. -/
structure Fresh (script : Script) (negotiation : Negotiation Scripted) : Prop where
  idle : negotiation.progress = .disconnected
  engine : negotiation.engine = { script := script }
  ice : negotiation.ice = .new
  silent : negotiation.described = false
  early : negotiation.gathered = false
  candidates : negotiation.localCandidates = []
  traffic : negotiation.traffic = []

/-- A negotiation on a side whose pipeline was built by a scripted engine. -/
def built (negotiation : Negotiation Scripted) (side : Role) (pipeline : Engine.Pipeline) :
    Negotiation Scripted :=
  { negotiation with
    role := some side
    progress := .initiated
    hasPipeline := true
    engine := { negotiation.engine with running := true, cameraOn := pipeline.camera.isSome }
    traffic := [.request (.build pipeline), .callback .negotiationNeeded] }

theorem build_scripted (fresh : negotiation.Fresh script) (side : Role)
    (pipeline : Engine.Pipeline) :
    Negotiation.build { negotiation with role := some side } pipeline =
      (negotiation.built side pipeline, .ok (openingStages.map .progressChanged)) := by
  have idle := fresh.idle
  have traffic := fresh.traffic
  simp [build, built, moveTo, idle, Progress.canBecome, ask, MediaEngine.respond, Scripted.respond,
    traffic, openingStages]

theorem Fresh.runs_built (fresh : negotiation.Fresh script) (side : Role)
    (pipeline : Engine.Pipeline) : (negotiation.built side pipeline).Runs side :=
  ⟨rfl, rfl, .inl ⟨fresh.silent, rfl⟩⟩

theorem Fresh.performs_built (fresh : negotiation.Fresh script) (side : Role)
    (pipeline : Engine.Pipeline) : (negotiation.built side pipeline).Performs script :=
  ⟨congrArg Scripted.script fresh.engine, rfl⟩

/-- A scripted engine describes itself with the words and candidates of its script. -/
theorem Performs.describe (performs : negotiation.Performs script) (side : Role)
    (kind : DescriptionKind) :
    negotiation.engine.describe (script.description side) kind =
      .localDescription (script.description side) kind ::
        (script.candidates.map Engine.Callback.localCandidate ++ [.gatheringComplete]) := by
  unfold Scripted.describe
  rw [performs.script, if_pos performs.running, List.cons_append]

/-- A pipeline that was built waits for its first callback. -/
theorem leads_built {side : Role} {callbacks : List Engine.Callback}
    (runs : negotiation.Runs side) (silent : negotiation.described = false)
    (leads : negotiation.Leads side (script.description side) script.candidates callbacks) :
    negotiation.Leads side (script.description side) script.candidates
      (.negotiationNeeded :: callbacks) := by
  refine .wait silent ?_ leads
  simp [handle, runs.pipeline, handleRunning, silent]

/-- The callbacks that follow a request for a description lead to its report. -/
theorem leads_described {side : Role} {kind : DescriptionKind} (runs : negotiation.Runs side)
    (silent : negotiation.described = false) (searched : negotiation.ice = side.searched)
    (early : negotiation.gathered = false) (none : negotiation.localCandidates = []) :
    negotiation.Leads side (script.description side) script.candidates
      (.localDescription (script.description side) kind ::
        (script.candidates.map Engine.Callback.localCandidate ++ [.gatheringComplete])) := by
  have gathering := @leads_gathering Scripted _ { negotiation with
    localDescription := some (script.description side) } side (script.description side)
    (runs.congr rfl rfl rfl rfl) silent rfl searched script.candidates
  rw [none, List.nil_append] at gathering
  refine .wait silent ?_ gathering
  simp [handle, runs.pipeline, handleRunning, silent, early, none]

/-- A description that is asked for is posted behind everything else. -/
theorem Performs.callbacks_tell {request : Engine.Request}
    (performs : negotiation.Performs script) (side : Role) (kind : DescriptionKind)
    (asks : ∀ engine : Scripted, (engine.respond request).callbacks =
      engine.describe (engine.script.description side) kind) :
    Traffic.callbacks (negotiation.tell request).traffic =
      Traffic.callbacks negotiation.traffic ++
        .localDescription (script.description side) kind ::
          (script.candidates.map Engine.Callback.localCandidate ++ [.gatheringComplete]) := by
  change Traffic.callbacks (_ ++ .request request ::
    (negotiation.engine.respond request).callbacks.map _) = _
  rw [Traffic.callbacks_append, Traffic.callbacks_request, Traffic.callbacks_callbacks, asks,
    performs.script, performs.describe]

/-- A fresh negotiation with a scripted engine starts and prepares its offer. -/
theorem start_scripted (fresh : negotiation.Fresh script) (pipeline : Engine.Pipeline) :
    ∃ started, negotiation.start pipeline =
        (started, .ok (openingStages.map .progressChanged)) ∧
      started.Prepares .offering script [] := by
  have runs := (fresh.runs_built .offering pipeline).tell .offer
  have performs := fresh.performs_built .offering pipeline
  refine ⟨(negotiation.built .offering pipeline).tell .offer, ?_, runs, fresh.silent,
    ⟨performs.script, performs.running⟩, ?_, ?_⟩
  · unfold start
    rw [if_neg (by simp [fresh.idle]), build_scripted fresh]
  · exact congrArg Scripted.remoteCandidates fresh.engine
  · rw [performs.callbacks_tell .offering .offer fun _ => rfl]
    exact leads_built runs fresh.silent
      (leads_described runs fresh.silent fresh.ice fresh.early fresh.candidates)

/-- A negotiation whose scripted engine has taken a description and connects. -/
def taken (negotiation : Negotiation Scripted) (kind : DescriptionKind) (description : String)
    (user : UserId) : Negotiation Scripted :=
  { negotiation with
    remoteUser := some user
    remoteStreams := rememberStreams negotiation.remoteStreams description user
    traffic := negotiation.traffic ++ [.request (.applyRemote kind description),
      .callback (.iceChanged .checking), .callback (.iceChanged .connected)] }

/-- A scripted engine that runs takes a description that is not blank. -/
theorem applyRemote_scripted (performs : negotiation.Performs script)
    (connects : script.connects = true) {description : String}
    (words : Text.allBlank description = false) (kind : DescriptionKind) (user : UserId) :
    negotiation.applyRemote description kind user =
      (negotiation.taken kind description user, none) := by
  simp [applyRemote, ask, taken, MediaEngine.respond, Scripted.respond, Scripted.applyRemote,
    performs.running, words, performs.script, connects]

theorem Performs.taken (performs : negotiation.Performs script) (kind : DescriptionKind)
    (description : String) (user : UserId) :
    (negotiation.taken kind description user).Performs script :=
  ⟨performs.script, performs.running⟩

/-- The search for a path that an engine begins with the offer is remembered. -/
theorem leads_searching {side : Role} {callbacks : List Engine.Callback}
    (runs : negotiation.Runs side) (silent : negotiation.described = false)
    (leads : Leads side (script.description side) script.candidates
      { negotiation with ice := .connected } callbacks) :
    negotiation.Leads side (script.description side) script.candidates
      (.iceChanged .checking :: .iceChanged .connected :: callbacks) := by
  have initiated := runs.progress_initiated silent
  have checking := @followIce_initiated Scripted { negotiation with ice := .checking } (by simp)
    initiated
  have connected := @followIce_initiated Scripted { negotiation with ice := .connected } (by simp)
    initiated
  refine .wait silent (?_ : _ = (({ negotiation with ice := .checking } : Negotiation Scripted), _))
    (.wait silent ?_ leads)
  · rw [handle, if_pos runs.pipeline, handleRunning, checking]
  · rw [handle, if_pos runs.pipeline, handleRunning, connected]

/-- A fresh negotiation with a scripted engine accepts an offer with audio and prepares its answer.
-/
theorem acceptOffer_scripted (fresh : negotiation.Fresh script) (connects : script.connects = true)
    (pipeline : Engine.Pipeline) {offer : String} (words : Text.allBlank offer = false)
    (compatible : Description.hasCompatibleAudio offer = true) (candidates : List Candidate)
    (user : UserId) :
    ∃ accepted, negotiation.acceptOffer pipeline offer candidates user =
        (accepted, .ok (openingStages.map .progressChanged)) ∧
      accepted.Prepares .answering script (Candidate.usable candidates) := by
  have performs := (fresh.performs_built .answering pipeline).taken .offer offer user
  have runs : ((negotiation.built .answering pipeline).taken .offer offer user).Runs .answering :=
    (fresh.runs_built .answering pipeline).congr rfl rfl rfl rfl
  have handed := performs.addRemoteCandidates candidates
  have going := (runs.addRemoteCandidates candidates).tell .answer
  refine ⟨_, ?_, going, ?_, ⟨handed.script, handed.running⟩, ?_, ?_⟩
  · unfold acceptOffer
    rw [if_neg (by simp [fresh.idle]), if_neg (by simp [compatible]), build_scripted fresh]
    dsimp only
    rw [applyRemote_scripted (fresh.performs_built .answering pipeline) connects words]
  · rw [described_tell, described_addRemoteCandidates]
    exact fresh.silent
  · have none : ((negotiation.built .answering pipeline).taken .offer offer
        user).engine.remoteCandidates = [] :=
      congrArg Scripted.remoteCandidates fresh.engine
    change Scripted.remoteCandidates (Negotiation.engine (addRemoteCandidates _ candidates)) = _
    rw [remoteCandidates_addRemoteCandidates, none, List.nil_append]
  · rw [handed.callbacks_tell .answering .answer fun _ => rfl,
      callbacks_addRemoteCandidates]
    have silent : ((addRemoteCandidates ((negotiation.built .answering pipeline).taken .offer offer
        user) candidates).tell .answer).described = false := by
      rw [described_tell, described_addRemoteCandidates]
      exact fresh.silent
    refine leads_built going silent (leads_searching going silent
      (leads_described (going.congr rfl rfl rfl rfl) silent rfl ?_ ?_))
    · change Negotiation.gathered (addRemoteCandidates _ candidates) = false
      rw [addRemoteCandidates_scripted]
      exact fresh.early
    · change Negotiation.localCandidates (addRemoteCandidates _ candidates) = []
      rw [addRemoteCandidates_scripted]
      exact fresh.candidates

/-- What a scripted engine posts when it takes an answer leads to a connection. -/
theorem acceptAnswer_scripted {side : Role} (performs : negotiation.Performs script)
    (connects : script.connects = true) (runs : negotiation.Runs side)
    (sent : negotiation.progress = .offerSent) (quiet : negotiation.traffic = []) {answer : String}
    (words : Text.allBlank answer = false) (candidates : List Candidate) (user : UserId) :
    ∃ accepted, negotiation.acceptAnswer answer candidates user = (accepted, .ok ()) ∧
      accepted = (negotiation.taken .answer answer user).addRemoteCandidates candidates ∧
      accepted.Connects (Traffic.callbacks accepted.traffic) := by
  refine ⟨_, ?_, rfl, ?_⟩
  · unfold acceptAnswer
    rw [if_neg (by simp [sent]), applyRemote_scripted performs connects words]
  · rw [callbacks_addRemoteCandidates, addRemoteCandidates_scripted]
    have posted : Traffic.callbacks (negotiation.taken .answer answer user).traffic =
        [.iceChanged .checking, .iceChanged .connected] := by
      simp [taken, quiet]
    rw [posted]
    have connected := @connects_of_offerSent Scripted _ (negotiation.taken .answer answer user)
      runs.pipeline sent
    exact connected.onEngine _ _

end Negotiation

end RoomCall
