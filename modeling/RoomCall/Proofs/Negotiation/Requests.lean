import RoomCall.Proofs.Negotiation.Running

/-!
# What a negotiation asks of its engine

For every operation of a negotiation, the requests that it makes of the engine, and where it leaves
the negotiation. An engine may refuse to build the pipeline or to take a remote description; nothing
else that it says at once changes what is asked of it.
-/

namespace RoomCall.Negotiation

variable {ε : Type} [MediaEngine ε] {side : Role} {negotiation : Negotiation ε}

/-- The requests by which candidates are handed to an engine. -/
def candidateRequests (candidates : List Candidate) : List Engine.Request :=
  match Candidate.usable candidates with
  | [] => []
  | usable => [.addCandidates usable]

/-- The notices of a negotiation that gets under way. -/
def openingStages : List Progress := [.initiating, .initiated]

@[simp]
theorem requests_ask (request : Engine.Request) :
    Traffic.requests (negotiation.ask request).1.traffic =
      Traffic.requests negotiation.traffic ++ [request] := by
  simp [ask]

@[simp]
theorem requests_tell (request : Engine.Request) :
    Traffic.requests (negotiation.tell request).traffic =
      Traffic.requests negotiation.traffic ++ [request] :=
  requests_ask request

/-- Asking changes neither the side nor the stage. -/
theorem Runs.ask (runs : negotiation.Runs side) (request : Engine.Request) :
    (negotiation.ask request).1.Runs side :=
  runs.congr rfl rfl rfl rfl

theorem Runs.tell (runs : negotiation.Runs side) (request : Engine.Request) :
    (negotiation.tell request).Runs side :=
  runs.ask request

@[simp]
theorem id_tell (request : Engine.Request) : (negotiation.tell request).id = negotiation.id := rfl

@[simp]
theorem described_tell (request : Engine.Request) :
    (negotiation.tell request).described = negotiation.described := rfl

@[simp]
theorem progress_tell (request : Engine.Request) :
    (negotiation.tell request).progress = negotiation.progress := rfl

/-! ## Candidates -/

/-- Adding candidates is one request or none, and changes nothing else. -/
theorem addRemoteCandidates_cases (candidates : List Candidate) :
    (candidateRequests candidates = [] ∧
        negotiation.addRemoteCandidates candidates = negotiation) ∨
      ∃ request, candidateRequests candidates = [request] ∧
        negotiation.addRemoteCandidates candidates = negotiation.tell request := by
  unfold addRemoteCandidates candidateRequests Candidate.usable
  cases candidates.filter fun candidate => !candidate.isEndMark with
  | nil => exact .inl ⟨rfl, rfl⟩
  | cons first later => exact .inr ⟨_, rfl, rfl⟩

/-- Candidates of the other side make one request, with those that are usable, or none. -/
theorem requests_addRemoteCandidates (candidates : List Candidate) :
    Traffic.requests (negotiation.addRemoteCandidates candidates).traffic =
      Traffic.requests negotiation.traffic ++ candidateRequests candidates := by
  rcases negotiation.addRemoteCandidates_cases candidates with
    ⟨none, same⟩ | ⟨request, one, told⟩
  · simp [none, same]
  · simp [one, told]

theorem Runs.addRemoteCandidates (runs : negotiation.Runs side) (candidates : List Candidate) :
    (negotiation.addRemoteCandidates candidates).Runs side := by
  rcases negotiation.addRemoteCandidates_cases candidates with
    ⟨_, same⟩ | ⟨request, _, told⟩
  · rwa [same]
  · rw [told]
    exact runs.tell request

@[simp]
theorem id_addRemoteCandidates (candidates : List Candidate) :
    (negotiation.addRemoteCandidates candidates).id = negotiation.id := by
  rcases negotiation.addRemoteCandidates_cases candidates with
    ⟨_, same⟩ | ⟨request, _, told⟩ <;> simp [*]

@[simp]
theorem described_addRemoteCandidates (candidates : List Candidate) :
    (negotiation.addRemoteCandidates candidates).described = negotiation.described := by
  rcases negotiation.addRemoteCandidates_cases candidates with
    ⟨_, same⟩ | ⟨request, _, told⟩ <;> simp [*]

/-- Candidates reach the engine of a running negotiation at once. -/
theorem acceptCandidates_running (runs : negotiation.Runs side) (candidates : List Candidate) :
    negotiation.acceptCandidates candidates = negotiation.addRemoteCandidates candidates := by
  simp [acceptCandidates, runs.pipeline]

/-! ## Remote descriptions -/

theorem Runs.applyRemote (runs : negotiation.Runs side) (description : String)
    (kind : DescriptionKind) (user : UserId) :
    (negotiation.applyRemote description kind user).1.Runs side :=
  runs.congr rfl rfl rfl rfl

@[simp]
theorem requests_applyRemote (description : String) (kind : DescriptionKind) (user : UserId) :
    Traffic.requests (negotiation.applyRemote description kind user).1.traffic =
      Traffic.requests negotiation.traffic ++ [.applyRemote kind description] := by
  simp [applyRemote]

@[simp]
theorem id_applyRemote (description : String) (kind : DescriptionKind) (user : UserId) :
    (negotiation.applyRemote description kind user).1.id = negotiation.id := rfl

/-- The engine refuses an answer, or takes it and then the candidates that came with it. -/
theorem acceptAnswer_cases (sent : negotiation.progress = .offerSent) (answer : String)
    (candidates : List Candidate) (user : UserId) :
    (∃ failed fault, negotiation.applyRemote answer .answer user = (failed, some fault) ∧
        negotiation.acceptAnswer answer candidates user = (failed, .error (.media fault))) ∨
      (negotiation.applyRemote answer .answer user).2 = none ∧
        negotiation.acceptAnswer answer candidates user =
          ((negotiation.applyRemote answer .answer user).1.addRemoteCandidates candidates,
            .ok ()) := by
  unfold acceptAnswer
  rw [if_neg (by simp [sent])]
  split
  · rename_i applied fault took
    exact .inl ⟨applied, fault, took, rfl⟩
  · rename_i applied took
    rw [took]
    exact .inr ⟨rfl, rfl⟩

/-- A description sent during the call is refused, or it is applied; an offer is answered. -/
theorem renegotiate_cases (description : String) (user : UserId) (isAnswer : Bool) :
    (negotiation.renegotiate description user isAnswer).1 = negotiation ∨
      ∃ kind, (negotiation.renegotiate description user isAnswer).1 =
          (negotiation.applyRemote description kind user).1 ∨
        (negotiation.renegotiate description user isAnswer).1 =
          (negotiation.applyRemote description kind user).1.tell .answer := by
  unfold renegotiate
  split
  · exact .inl rfl
  · right
    split
    · refine ⟨.answer, .inl ?_⟩
      split <;> simp_all
    · refine ⟨.offer, ?_⟩
      split <;> simp_all

theorem Runs.renegotiate (runs : negotiation.Runs side) (description : String) (user : UserId)
    (isAnswer : Bool) : (negotiation.renegotiate description user isAnswer).1.Runs side := by
  rcases negotiation.renegotiate_cases description user isAnswer with same | ⟨kind, same | same⟩
  · rwa [same]
  · rw [same]
    exact runs.applyRemote description kind user
  · rw [same]
    exact (runs.applyRemote description kind user).tell .answer

@[simp]
theorem described_renegotiate (description : String) (user : UserId) (isAnswer : Bool) :
    (negotiation.renegotiate description user isAnswer).1.described = negotiation.described := by
  rcases negotiation.renegotiate_cases description user isAnswer with same | ⟨kind, same | same⟩ <;>
    rw [same] <;> rfl

@[simp]
theorem id_renegotiate (description : String) (user : UserId) (isAnswer : Bool) :
    (negotiation.renegotiate description user isAnswer).1.id = negotiation.id := by
  rcases negotiation.renegotiate_cases description user isAnswer with same | ⟨kind, same | same⟩ <;>
    rw [same] <;> rfl

/-! ## Getting under way -/

omit [MediaEngine ε] in
theorem moveTo_fst (stage : Progress) :
    (negotiation.moveTo stage).1 =
      { negotiation with progress := (negotiation.moveTo stage).1.progress } := by
  unfold moveTo
  split <;> rfl

omit [MediaEngine ε] in
@[simp]
theorem id_moveTo (stage : Progress) : (negotiation.moveTo stage).1.id = negotiation.id := by
  rw [moveTo_fst]

omit [MediaEngine ε] in
/-- Moving to the stage where a negotiation stands is refused. -/
theorem moveTo_self {stage : Progress} (there : negotiation.progress = stage) :
    negotiation.moveTo stage = (negotiation, []) := by
  have refused : negotiation.progress.canBecome stage = false := by
    rw [there]
    cases stage <;> rfl
  simp [moveTo, refused]

theorem finish_eq :
    negotiation.finish =
      (if negotiation.hasPipeline then { negotiation.tell .finish with hasPipeline := false }
        else negotiation : Negotiation ε).moveTo .disconnected := by
  have leaves (ended : Negotiation ε) :
      (if ended.progress ≠ .disconnected then ended.moveTo .disconnected else (ended, [])) =
        ended.moveTo .disconnected := by
    split
    · rfl
    · rename_i idle
      exact (moveTo_self (Decidable.not_not.mp idle)).symm
  exact leaves _

@[simp]
theorem id_ask (request : Engine.Request) : (negotiation.ask request).1.id = negotiation.id := rfl

theorem id_of_ask {request : Engine.Request} {asked : Negotiation ε}
    {fault : Option Engine.Fault} (reply : negotiation.ask request = (asked, fault)) :
    asked.id = negotiation.id := by
  have same := negotiation.id_ask request
  rwa [reply] at same

@[simp]
theorem id_build (pipeline : Engine.Pipeline) :
    (negotiation.build pipeline).1.id = negotiation.id := by
  unfold build
  dsimp only
  split
  · rename_i asked fault reply
    simpa using id_of_ask reply
  · rename_i asked reply
    simpa using id_of_ask reply

theorem id_of_build {pipeline : Engine.Pipeline} {built : Negotiation ε}
    {outcome : Except NegotiationError (List Notice)}
    (done : negotiation.build pipeline = (built, outcome)) : built.id = negotiation.id := by
  have same := negotiation.id_build pipeline
  rwa [done] at same

@[simp]
theorem id_start (pipeline : Engine.Pipeline) :
    (negotiation.start pipeline).1.id = negotiation.id := by
  unfold start
  split
  · rfl
  · split
    · rename_i built error done
      exact (id_of_build done).trans rfl
    · rename_i built notices done
      exact (id_of_build done).trans rfl

@[simp]
theorem id_acceptOffer (pipeline : Engine.Pipeline) (offer : String) (candidates : List Candidate)
    (user : UserId) :
    (negotiation.acceptOffer pipeline offer candidates user).1.id = negotiation.id := by
  unfold acceptOffer
  split
  · rfl
  · split
    · rfl
    · split
      · rename_i built error done
        exact (id_of_build done).trans rfl
      · rename_i built notices done
        have begun : built.id = negotiation.id := (id_of_build done).trans rfl
        split
        · rename_i applied fault took
          exact (id_of_ask took).trans begun
        · rename_i applied took
          simpa using (id_of_ask took).trans begun

/-- An engine that refuses to build a pipeline leaves the negotiation where it was. -/
theorem build_cases (idle : negotiation.progress = .disconnected) (pipeline : Engine.Pipeline) :
    (∃ fault, (MediaEngine.respond negotiation.engine (.build pipeline)).fault = some fault ∧
      negotiation.build pipeline =
        (negotiation.tell (.build pipeline), .error (.media fault))) ∨
      (MediaEngine.respond negotiation.engine (.build pipeline)).fault = none ∧
      negotiation.build pipeline =
        ({ negotiation.tell (.build pipeline) with progress := .initiated, hasPipeline := true },
          .ok (openingStages.map .progressChanged)) := by
  have initiating : negotiation.moveTo .initiating =
      ({ negotiation with progress := .initiating }, [.progressChanged .initiating]) :=
    moveTo_of_canBecome (by rw [idle]; rfl)
  unfold build
  rw [initiating]
  cases fault : (MediaEngine.respond negotiation.engine (.build pipeline)).fault with
  | some reason =>
      left
      exact ⟨reason, rfl, by simp [ask, tell, moveTo, Progress.canBecome, *]⟩
  | none =>
      right
      simp [ask, tell, moveTo, Progress.canBecome, openingStages, *]

/-- A negotiation that has just got under way. -/
structure Opened (side : Role) (requests : List Engine.Request) (negotiation : Negotiation ε) :
    Prop where
  runs : negotiation.Runs side
  silent : negotiation.described = false
  requests : Traffic.requests negotiation.traffic = requests

/-- What a side asks of its engine in order to get under way. -/
def openingRequests (pipeline : Engine.Pipeline) (offer : String) (candidates : List Candidate) :
    Role → List Engine.Request
  | .offering => [.build pipeline, .offer]
  | .answering =>
      [.build pipeline, .applyRemote .offer offer] ++ candidateRequests candidates ++ [.answer]

/-- A negotiation that builds its pipeline has asked for nothing else. -/
theorem opened_build (side : Role) (silent : negotiation.described = false) (quiet : negotiation.traffic = [])
    (pipeline : Engine.Pipeline) :
    Opened side [.build pipeline]
      { ({ negotiation with role := some side } : Negotiation ε).tell (.build pipeline) with
        progress := .initiated, hasPipeline := true } where
  runs := ⟨rfl, rfl, .inl ⟨silent, rfl⟩⟩
  silent := silent
  requests := by
    change Traffic.requests (({ negotiation with role := some side } : Negotiation ε).tell
      (.build pipeline)).traffic = _
    simp [quiet]

/-- The offering side gets under way, unless its engine refuses. -/
theorem start_cases (idle : negotiation.progress = .disconnected)
    (silent : negotiation.described = false) (quiet : negotiation.traffic = [])
    (pipeline : Engine.Pipeline) (offer : String) (candidates : List Candidate) :
    (∃ error, (negotiation.start pipeline).2 = .error error) ∨
      (negotiation.start pipeline).2 = .ok (openingStages.map .progressChanged) ∧
      Opened .offering (openingRequests pipeline offer candidates .offering)
        (negotiation.start pipeline).1 := by
  unfold start
  rw [if_neg (by simp [idle])]
  rcases @build_cases ε _ { negotiation with role := some .offering } idle pipeline with
    ⟨fault, _, refused⟩ | ⟨_, built⟩
  · left
    split <;> simp_all
  · right
    have opened := opened_build .offering silent quiet pipeline
    rw [built]
    refine ⟨rfl, opened.runs.tell .offer, opened.silent, ?_⟩
    simp only [requests_tell, opened.requests]
    rfl

/-- The answering side gets under way, unless the offer has no usable codec or its engine
refuses. -/
theorem acceptOffer_cases (idle : negotiation.progress = .disconnected)
    (silent : negotiation.described = false) (quiet : negotiation.traffic = [])
    (pipeline : Engine.Pipeline) (offer : String) (candidates : List Candidate) (user : UserId) :
    (∃ error, (negotiation.acceptOffer pipeline offer candidates user).2 = .error error) ∨
      (negotiation.acceptOffer pipeline offer candidates user).2 =
        .ok (openingStages.map .progressChanged) ∧
      Opened .answering (openingRequests pipeline offer candidates .answering)
        (negotiation.acceptOffer pipeline offer candidates user).1 := by
  unfold acceptOffer
  rw [if_neg (by simp [idle])]
  split
  · exact .inl ⟨_, rfl⟩
  · rcases @build_cases ε _ { negotiation with role := some .answering } idle pipeline with
      ⟨fault, _, refused⟩ | ⟨_, built⟩
    · left
      split <;> simp_all
    · have opened := opened_build .answering silent quiet pipeline
      rw [built]
      dsimp only
      split
      · exact .inl ⟨_, rfl⟩
      · rename_i applied took
        right
        have accepted : (Negotiation.applyRemote _ offer .offer user).1 = applied :=
          congrArg Prod.fst took
        have runs := opened.runs.applyRemote offer .offer user
        rw [accepted] at runs
        have requests := @requests_applyRemote ε _ { ({ negotiation with
          role := some .answering } : Negotiation ε).tell (.build pipeline) with
            progress := .initiated, hasPipeline := true } offer .offer user
        rw [accepted, opened.requests] at requests
        refine ⟨rfl, (runs.addRemoteCandidates candidates).tell .answer, ?_, ?_⟩
        · rw [described_tell, described_addRemoteCandidates, ← accepted]
          exact silent
        · rw [requests_tell, requests_addRemoteCandidates, requests]
          rfl

/-! ## Callbacks and switches -/

omit [MediaEngine ε] in
theorem beginConnecting_fst :
    negotiation.beginConnecting.1 =
      { negotiation with progress := negotiation.beginConnecting.1.progress } := by
  unfold beginConnecting
  split
  · exact moveTo_fst _
  · rfl

omit [MediaEngine ε] in
/-- Following the search changes the stage alone. -/
theorem followIce_fst :
    negotiation.followIce.1 = { negotiation with progress := negotiation.followIce.1.progress } := by
  unfold followIce
  split
  · exact beginConnecting_fst
  · dsimp only
    split
    · rw [moveTo_fst, beginConnecting_fst]
    · exact beginConnecting_fst
  · dsimp only
    split
    · rw [moveTo_fst, beginConnecting_fst]
    · exact beginConnecting_fst
  · split
    · exact moveTo_fst _
    · rfl
  · rfl
  · rfl
  · rfl

omit [MediaEngine ε] in
/-- Reporting changes the stage and remembers that it was done. -/
theorem report_fst :
    negotiation.report.1 =
      { negotiation with
        described := negotiation.report.1.described
        progress := negotiation.report.1.progress } := by
  unfold report
  split
  · rfl
  · split
    · rfl
    · dsimp only
      split
      · rw [moveTo_fst]
      · rw [moveTo_fst]
      · rfl

omit [MediaEngine ε] in
theorem reportAndFollow_fst :
    negotiation.reportAndFollow.1 =
      { negotiation with
        described := negotiation.reportAndFollow.1.described
        progress := negotiation.reportAndFollow.1.progress } := by
  simp only [reportAndFollow]
  rw [followIce_fst, report_fst]

/-- After a callback the engine is asked for a new offer, or the negotiation takes note of something
and asks for nothing. -/
theorem handle_fst (callback : Engine.Callback) :
    (callback = .negotiationNeeded ∧ negotiation.described = true ∧
        (negotiation.handle callback).1 = negotiation.tell .offer) ∨
      ∃ ice description candidates gathered described progress,
        (negotiation.handle callback).1 =
          { negotiation with
            ice := ice
            localDescription := description
            localCandidates := candidates
            gathered := gathered
            described := described
            progress := progress } := by
  unfold handle
  split
  · cases callback with
    | negotiationNeeded =>
        simp only [handleRunning]
        split
        · rename_i described
          rw [Bool.and_eq_true] at described
          exact .inl ⟨trivial, described.1, rfl⟩
        · exact .inr ⟨_, _, _, _, _, _, rfl⟩
    | localDescription description kind =>
        right
        simp only [handleRunning]
        split
        · exact ⟨_, _, _, _, _, _, rfl⟩
        · split
          · exact ⟨_, _, _, _, _, _, reportAndFollow_fst⟩
          · exact ⟨_, _, _, _, _, _, rfl⟩
    | localCandidate candidate => exact .inr ⟨_, _, _, _, _, _, rfl⟩
    | gatheringComplete => exact .inr ⟨_, _, _, _, _, _, reportAndFollow_fst⟩
    | iceChanged state => exact .inr ⟨_, _, _, _, _, _, followIce_fst⟩
    | remoteStream stream medium =>
        right
        simp only [handleRunning]
        split <;> exact ⟨_, _, _, _, _, _, rfl⟩
    | pipelineFailed message => exact .inr ⟨_, _, _, _, _, _, rfl⟩
    | endOfStream => exact .inr ⟨_, _, _, _, _, _, rfl⟩
  · exact .inr ⟨_, _, _, _, _, _, rfl⟩

@[simp]
theorem id_handle (callback : Engine.Callback) :
    (negotiation.handle callback).1.id = negotiation.id := by
  rcases negotiation.handle_fst callback with ⟨_, _, told⟩ | ⟨_, _, _, _, _, _, noted⟩
  · rw [told, id_tell]
  · rw [noted]

/-- A switch of the microphone is refused by the negotiation, or the engine is asked. -/
theorem setMuted_cases (muted : Bool) :
    (negotiation.setMuted muted).1 = negotiation ∨
      (negotiation.setMuted muted).1 = negotiation.tell (.setMuted muted) := by
  unfold setMuted
  split
  · exact .inl rfl
  · right
    split <;> simp_all [tell]

/-- A switch of the camera is refused by the negotiation, or the engine is asked. -/
theorem toggleCamera_cases :
    negotiation.toggleCamera.1 = negotiation ∨
      negotiation.toggleCamera.1 = negotiation.tell .toggleCamera := by
  unfold toggleCamera
  split
  · exact .inl rfl
  · right
    split <;> simp_all [tell]

theorem Runs.setMuted (runs : negotiation.Runs side) (muted : Bool) :
    (negotiation.setMuted muted).1.Runs side := by
  rcases negotiation.setMuted_cases muted with same | same
  · rwa [same]
  · rw [same]
    exact runs.tell (.setMuted muted)

@[simp]
theorem described_setMuted (muted : Bool) :
    (negotiation.setMuted muted).1.described = negotiation.described := by
  rcases negotiation.setMuted_cases muted with same | same <;> simp [same]

@[simp]
theorem id_setMuted (muted : Bool) : (negotiation.setMuted muted).1.id = negotiation.id := by
  rcases negotiation.setMuted_cases muted with same | same <;> simp [same]

theorem Runs.toggleCamera (runs : negotiation.Runs side) : negotiation.toggleCamera.1.Runs side := by
  rcases negotiation.toggleCamera_cases with same | same
  · rwa [same]
  · rw [same]
    exact runs.tell .toggleCamera

@[simp]
theorem described_toggleCamera : negotiation.toggleCamera.1.described = negotiation.described := by
  rcases negotiation.toggleCamera_cases with same | same <;> simp [same]

@[simp]
theorem id_toggleCamera : negotiation.toggleCamera.1.id = negotiation.id := by
  rcases negotiation.toggleCamera_cases with same | same <;> simp [same]

end RoomCall.Negotiation

namespace RoomCall

/-! ## What reaches the engine from the other side -/

/-- Whether a request hands over something that the other side has sent. -/
def Engine.Request.isDelivery : Engine.Request → Bool
  | .applyRemote _ _ | .addCandidates _ => true
  | _ => false

/-- The candidates that a request hands over. -/
def Engine.Request.candidates : Engine.Request → List Candidate
  | .addCandidates candidates => candidates
  | _ => []

/-- The requests in some traffic that hand over what the other side has sent. -/
def Traffic.deliveries (traffic : List Traffic) : List Engine.Request :=
  (Traffic.requests traffic).filter Engine.Request.isDelivery

namespace Negotiation

variable {ε : Type} [MediaEngine ε] {negotiation : Negotiation ε}

omit [MediaEngine ε] in
theorem isDelivery_candidateRequests (candidates : List Candidate) :
    (candidateRequests candidates).filter Engine.Request.isDelivery =
      candidateRequests candidates := by
  unfold candidateRequests
  split <;> rfl

omit [MediaEngine ε] in
/-- The engine is asked to take all usable candidates and no others. -/
theorem candidates_candidateRequests (candidates : List Candidate) :
    (candidateRequests candidates).flatMap Engine.Request.candidates =
      Candidate.usable candidates := by
  unfold candidateRequests
  split
  · rename_i none
    exact none.symm
  · simp [Engine.Request.candidates]

@[simp]
theorem deliveries_addRemoteCandidates (candidates : List Candidate) :
    Traffic.deliveries (negotiation.addRemoteCandidates candidates).traffic =
      Traffic.deliveries negotiation.traffic ++ candidateRequests candidates := by
  rw [Traffic.deliveries, requests_addRemoteCandidates, List.filter_append,
    isDelivery_candidateRequests]
  rfl

@[simp]
theorem deliveries_applyRemote (description : String) (kind : DescriptionKind) (user : UserId) :
    Traffic.deliveries (negotiation.applyRemote description kind user).1.traffic =
      Traffic.deliveries negotiation.traffic ++ [.applyRemote kind description] := by
  rw [Traffic.deliveries, requests_applyRemote, List.filter_append]
  rfl

/-- A request of another kind delivers nothing. -/
theorem deliveries_tell {request : Engine.Request} (own : request.isDelivery = false) :
    Traffic.deliveries (negotiation.tell request).traffic =
      Traffic.deliveries negotiation.traffic := by
  rw [Traffic.deliveries, requests_tell, List.filter_append]
  simp [own, Traffic.deliveries]

@[simp]
theorem deliveries_handle (callback : Engine.Callback) :
    Traffic.deliveries (negotiation.handle callback).1.traffic =
      Traffic.deliveries negotiation.traffic := by
  rcases negotiation.handle_fst callback with ⟨_, _, told⟩ | ⟨_, _, _, _, _, _, noted⟩
  · rw [told, deliveries_tell rfl]
  · rw [noted]

@[simp]
theorem deliveries_setMuted (muted : Bool) :
    Traffic.deliveries (negotiation.setMuted muted).1.traffic =
      Traffic.deliveries negotiation.traffic := by
  rcases negotiation.setMuted_cases muted with same | same
  · rw [same]
  · rw [same, deliveries_tell rfl]

@[simp]
theorem deliveries_toggleCamera :
    Traffic.deliveries negotiation.toggleCamera.1.traffic =
      Traffic.deliveries negotiation.traffic := by
  rcases negotiation.toggleCamera_cases with same | same
  · rw [same]
  · rw [same, deliveries_tell rfl]

/-- A description sent during the call is delivered, or nothing is. -/
theorem deliveries_renegotiate (description : String) (user : UserId) (isAnswer : Bool) :
    ∃ more, (more = [] ∨ ∃ kind, more = [.applyRemote kind description]) ∧
      Traffic.deliveries (negotiation.renegotiate description user isAnswer).1.traffic =
        Traffic.deliveries negotiation.traffic ++ more := by
  rcases negotiation.renegotiate_cases description user isAnswer with same | ⟨kind, same | same⟩
  · exact ⟨[], .inl rfl, by rw [same, List.append_nil]⟩
  · exact ⟨_, .inr ⟨kind, rfl⟩, by rw [same, deliveries_applyRemote]⟩
  · exact ⟨_, .inr ⟨kind, rfl⟩, by rw [same, deliveries_tell rfl, deliveries_applyRemote]⟩

/-- What is delivered to an engine as its negotiation gets under way. -/
def openingDeliveries (offer : String) (candidates : List Candidate) : Role → List Engine.Request
  | .offering => []
  | .answering => .applyRemote .offer offer :: candidateRequests candidates

omit [MediaEngine ε] in
/-- A negotiation that opened has delivered what its side has of the other one. -/
theorem Opened.deliveries {side : Role} {pipeline : Engine.Pipeline} {offer : String}
    {candidates : List Candidate}
    (opened : negotiation.Opened side (openingRequests pipeline offer candidates side)) :
    Traffic.deliveries negotiation.traffic = openingDeliveries offer candidates side := by
  rw [Traffic.deliveries, opened.requests]
  cases side
  · rfl
  · simp only [openingRequests, List.filter_append, isDelivery_candidateRequests]
    exact List.append_nil _

end Negotiation

end RoomCall
