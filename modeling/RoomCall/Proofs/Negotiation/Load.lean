import Mathlib.Algebra.GroupWithZero.Nat
import RoomCall.Engine.Scripted
import RoomCall.Proofs.Negotiation.Requests

/-!
# What is still to come of a negotiation

A negotiation with a scripted engine cannot go on forever by itself. Everything that waits to be
dealt with is given a load, and what comes of it weighs less than the thing itself: a callback that
asks for a new offer weighs more than the offer with all its candidates, the offer more than the
message that carries it to both devices, and that message more than the answer which it leads to.
The report of the local description happens once, so it is weighed in advance.

The loads depend on how many candidates follow a description at most. This number is the `width`.
-/

namespace RoomCall

open Engine (Scripted)

/-- The load of a message that carries a description during a call. An answer leads to two words
about the search for a path, an offer to these, an answer and its candidates. -/
def DescriptionKind.load (width : Nat) : DescriptionKind → Nat
  | .offer => width + 12
  | .answer => 3

namespace Engine

/-- The load of a callback. A description goes to both devices. -/
def Callback.load (width : Nat) : Callback → Nat
  | .negotiationNeeded => 3 * width + 28
  | .localDescription _ kind => 2 * kind.load width + 2
  | _ => 1

theorem Callback.load_pos (width : Nat) (callback : Callback) : 0 < callback.load width := by
  cases callback <;> simp [load]

/-- The load of some callbacks. -/
def Callback.loads (width : Nat) (callbacks : List Callback) : Nat :=
  (callbacks.map (Callback.load width)).sum

/-- The load of the callbacks by which a scripted engine responds to a request. -/
def Request.load (width : Nat) : Request → Nat
  | .build _ => 3 * width + 28
  | .offer => 3 * width + 27
  | .answer => width + 9
  | .applyRemote _ _ => 2
  | _ => 0

namespace Scripted

/-- An engine whose descriptions are followed by few candidates. -/
def Narrow (width : Nat) (engine : Scripted) : Prop :=
  engine.script.candidates.length ≤ width

variable {width : Nat} {engine : Scripted}

/-- No request changes the script of an engine. -/
theorem script_respond (engine : Scripted) (request : Request) :
    (engine.respond request).engine.script = engine.script := by
  cases request with
  | applyRemote kind description =>
      unfold respond applyRemote
      dsimp only
      split
      · rfl
      · split
        · rfl
        · split <;> rfl
  | setMuted | toggleCamera =>
      unfold respond
      dsimp only
      split <;> rfl
  | build | offer | answer | addCandidates | finish => rfl

/-- A description of a narrow engine costs what is counted for its kind and its candidates. -/
theorem loads_describe (narrow : engine.Narrow width) (description : String)
    (kind : DescriptionKind) :
    Callback.loads width (engine.describe description kind) ≤ 2 * kind.load width + width + 3 := by
  have candidates (found : List Candidate) :
      Callback.loads width (found.map .localCandidate) = found.length := by
    induction found with
    | nil => rfl
    | cons candidate later ih =>
        have one : (Callback.localCandidate candidate).load width = 1 := rfl
        simp only [Callback.loads, List.map_cons, List.sum_cons, List.length_cons] at ih ⊢
        rw [ih, one, Nat.add_comm]
  unfold describe
  split
  · have few : engine.script.candidates.length ≤ width := narrow
    have found := candidates engine.script.candidates
    simp only [Callback.loads, List.cons_append, List.map_cons, List.map_append, List.sum_cons,
      List.sum_append, Callback.load, List.map_nil, List.sum_nil] at found ⊢
    omega
  · exact Nat.zero_le _

/-- What a scripted engine responds with is no more than the load of the request. -/
theorem loads_respond (narrow : engine.Narrow width) (request : Request) :
    Callback.loads width (engine.respond request).callbacks ≤ request.load width := by
  cases request with
  | offer =>
      have described := loads_describe narrow engine.script.offer .offer
      simp only [DescriptionKind.load] at described
      simp only [respond, Request.load]
      omega
  | answer =>
      have described := loads_describe narrow engine.script.answer .answer
      simp only [DescriptionKind.load] at described
      simp only [respond, Request.load]
      omega
  | applyRemote kind description =>
      unfold respond applyRemote
      dsimp only
      split
      · exact Nat.zero_le _
      · split
        · exact Nat.zero_le _
        · split
          · exact Nat.le_refl _
          · exact Nat.zero_le _
  | setMuted | toggleCamera =>
      unfold respond
      dsimp only
      split <;> exact Nat.zero_le _
  | build | addCandidates | finish => simp [respond, Callback.loads, Callback.load, Request.load]

end Scripted

end Engine

/-- The load of what passed between a negotiation and its engine: only callbacks are still to be
dealt with. -/
def Traffic.load (width : Nat) : Traffic → Nat
  | .request _ => 0
  | .callback content => content.load width

/-- The load of all that passed between a negotiation and its engine. -/
def Traffic.loads (width : Nat) (traffic : List Traffic) : Nat :=
  (traffic.map (Traffic.load width)).sum

/-- The load of a notice. A first description goes to both devices together with its candidates,
and the side that offers starts a timer. -/
def Notice.load (width : Nat) : Notice → Nat
  | .offerCreated _ _ | .answerCreated _ _ => 27
  | .renegotiate _ kind => 2 * kind.load width + 1
  | .progressChanged _ | .remoteVideo _ | .failed _ => 0

/-- The load of all that a negotiation has to tell its phone. -/
def Notice.loads (width : Nat) (notices : List Notice) : Nat :=
  (notices.map (Notice.load width)).sum

@[simp]
theorem Notice.loads_nil (width : Nat) : Notice.loads width [] = 0 := rfl

@[simp]
theorem Notice.loads_cons (width : Nat) (notice : Notice) (later : List Notice) :
    Notice.loads width (notice :: later) = notice.load width + Notice.loads width later := by
  simp [loads]

@[simp]
theorem Notice.loads_append (width : Nat) (first second : List Notice) :
    Notice.loads width (first ++ second) =
      Notice.loads width first + Notice.loads width second := by
  simp [loads]

namespace Negotiation

/-- The load of a negotiation: the report of its description, as long as it has not been made, and
the callbacks that were not collected. -/
def load (width : Nat) (negotiation : Negotiation Scripted) : Nat :=
  (if negotiation.described then 0 else 27) + Traffic.loads width negotiation.traffic

/-- What an operation on a negotiation costs: the load grows by no more than that, and the engine
stays as narrow as it was. -/
def Costs (width cost : Nat) (negotiation after : Negotiation Scripted) : Prop :=
  negotiation.engine.Narrow width →
    after.engine.Narrow width ∧ after.load width ≤ negotiation.load width + cost

variable {width cost more : Nat} {negotiation middle after : Negotiation Scripted}

theorem Costs.trans (first : Costs width cost negotiation middle)
    (second : Costs width more middle after) : Costs width (cost + more) negotiation after := by
  intro narrow
  obtain ⟨stillNarrow, firstLoad⟩ := first narrow
  obtain ⟨narrowAtLast, secondLoad⟩ := second stillNarrow
  exact ⟨narrowAtLast, by omega⟩

theorem Costs.mono (costs : Costs width cost negotiation after) (within : cost ≤ more) :
    Costs width more negotiation after := by
  intro narrow
  obtain ⟨narrowAtLast, load⟩ := costs narrow
  exact ⟨narrowAtLast, by omega⟩

/-- What a negotiation remembers otherwise costs nothing. -/
theorem costs_of_same (engine : after.engine = negotiation.engine)
    (described : after.described = negotiation.described)
    (traffic : after.traffic = negotiation.traffic) : Costs width cost negotiation after := by
  intro narrow
  rw [engine, load, load, described, traffic]
  exact ⟨narrow, Nat.le_add_right _ cost⟩

theorem loads_callbacks (callbacks : List Engine.Callback) :
    Traffic.loads width (callbacks.map .callback) = Engine.Callback.loads width callbacks := by
  rw [Traffic.loads, Engine.Callback.loads, List.map_map]
  rfl

theorem costs_ask (negotiation : Negotiation Scripted) (request : Engine.Request) :
    Costs width (request.load width) negotiation (negotiation.ask request).1 := by
  intro narrow
  have script := negotiation.engine.script_respond request
  have response := Scripted.loads_respond narrow request
  refine ⟨?_, ?_⟩
  · change ((negotiation.engine.respond request).engine.script.candidates.length ≤ width)
    rw [script]
    exact narrow
  · have grown : Traffic.loads width (negotiation.ask request).1.traffic =
        Traffic.loads width negotiation.traffic +
          Engine.Callback.loads width (negotiation.engine.respond request).callbacks := by
      rw [← loads_callbacks]
      simp [ask, MediaEngine.respond, Traffic.loads, Traffic.load]
    have same : (negotiation.ask request).1.described = negotiation.described := rfl
    rw [load, load, same, grown]
    omega

theorem costs_tell (negotiation : Negotiation Scripted) (request : Engine.Request) :
    Costs width (request.load width) negotiation (negotiation.tell request) :=
  costs_ask negotiation request

theorem costs_moveTo (negotiation : Negotiation Scripted) (stage : Progress) :
    Costs width 0 negotiation (negotiation.moveTo stage).1 := by
  unfold moveTo
  split <;> exact costs_of_same rfl rfl rfl

/-! ## Operations -/

theorem costs_build (negotiation : Negotiation Scripted) (pipeline : Engine.Pipeline) :
    Costs width (3 * width + 28) negotiation (negotiation.build pipeline).1 := by
  have moved : Costs width 0 negotiation (negotiation.moveTo .initiating).1 :=
    costs_moveTo negotiation .initiating
  have asked : Costs width (3 * width + 28) (negotiation.moveTo .initiating).1
      ((negotiation.moveTo .initiating).1.ask (.build pipeline)).1 := costs_ask _ _
  refine Costs.mono ?_ (Nat.le_of_eq (Nat.zero_add _))
  unfold build
  dsimp only
  split
  · rename_i refused fault built
    rw [built] at asked
    exact moved.trans (asked.trans (costs_moveTo refused .disconnected))
  · rename_i granted built
    rw [built] at asked
    have ready : Costs width 0 granted { granted with hasPipeline := true } :=
      costs_of_same rfl rfl rfl
    exact moved.trans (asked.trans (ready.trans (costs_moveTo _ .initiated)))

theorem costs_applyRemote (negotiation : Negotiation Scripted) (description : String)
    (kind : DescriptionKind) (user : UserId) :
    Costs width 2 negotiation (negotiation.applyRemote description kind user).1 := by
  have known : Costs width 0 negotiation { negotiation with
      remoteUser := some user
      remoteStreams := rememberStreams negotiation.remoteStreams description user } :=
    costs_of_same rfl rfl rfl
  exact known.trans (costs_ask _ _)

theorem costs_addRemoteCandidates (negotiation : Negotiation Scripted)
    (candidates : List Candidate) :
    Costs width 0 negotiation (negotiation.addRemoteCandidates candidates) := by
  unfold addRemoteCandidates
  split
  · exact costs_of_same rfl rfl rfl
  · exact costs_tell negotiation _

theorem costs_acceptCandidates (negotiation : Negotiation Scripted)
    (candidates : List Candidate) :
    Costs width 0 negotiation (negotiation.acceptCandidates candidates) := by
  unfold acceptCandidates
  split
  · exact costs_addRemoteCandidates negotiation candidates
  · exact costs_of_same rfl rfl rfl

theorem costs_finish (negotiation : Negotiation Scripted) :
    Costs width 0 negotiation negotiation.finish.1 := by
  have ended : Costs width 0 negotiation
      (if negotiation.hasPipeline then { negotiation.tell .finish with hasPipeline := false }
        else negotiation) := by
    split
    · have down : Costs width 0 (negotiation.tell .finish)
          { negotiation.tell .finish with hasPipeline := false } := costs_of_same rfl rfl rfl
      exact (costs_tell negotiation .finish).trans down
    · exact costs_of_same rfl rfl rfl
  rw [finish_eq]
  exact ended.trans (costs_moveTo _ .disconnected)

/-- The most that it costs to start a negotiation on either side. -/
theorem costs_start (negotiation : Negotiation Scripted) (pipeline : Engine.Pipeline) :
    Costs width (6 * width + 55) negotiation (negotiation.start pipeline).1 := by
  have given : Costs width 0 negotiation { negotiation with role := some .offering } :=
    costs_of_same rfl rfl rfl
  have built := given.trans (costs_build { negotiation with role := some .offering } pipeline)
  unfold start
  split
  · exact costs_of_same rfl rfl rfl
  · split
    · rename_i refused error outcome
      rw [outcome] at built
      exact built.mono (by omega)
    · rename_i granted notices outcome
      rw [outcome] at built
      have offered : Costs width (3 * width + 27) granted (granted.tell .offer) := costs_tell _ _
      exact (built.trans offered).mono (by omega)

/-- To accept an offer costs a pipeline and an answer. -/
theorem costs_acceptOffer (negotiation : Negotiation Scripted) (pipeline : Engine.Pipeline)
    (offer : String) (candidates : List Candidate) (user : UserId) :
    Costs width (6 * width + 55) negotiation
      (negotiation.acceptOffer pipeline offer candidates user).1 := by
  have still : Costs width (6 * width + 55) negotiation negotiation :=
    costs_of_same rfl rfl rfl
  have given : Costs width 0 negotiation { negotiation with role := some .answering } :=
    costs_of_same rfl rfl rfl
  have built := given.trans (costs_build { negotiation with role := some .answering } pipeline)
  unfold acceptOffer
  split
  · exact still
  · split
    · exact still
    · split
      · rename_i refused error outcome
        rw [outcome] at built
        exact built.mono (by omega)
      · rename_i granted notices outcome
        rw [outcome] at built
        have applied := built.trans (costs_applyRemote granted offer .offer user)
        split
        · rename_i rejected fault reply
          rw [reply] at applied
          exact applied.mono (by omega)
        · rename_i taken reply
          rw [reply] at applied
          have answered : Costs width (width + 9) (taken.addRemoteCandidates candidates)
              ((taken.addRemoteCandidates candidates).tell .answer) := costs_tell _ _
          exact (applied.trans ((costs_addRemoteCandidates taken candidates).trans
            answered)).mono (by omega)

theorem costs_acceptAnswer (negotiation : Negotiation Scripted) (answer : String)
    (candidates : List Candidate) (user : UserId) :
    Costs width 2 negotiation (negotiation.acceptAnswer answer candidates user).1 := by
  have applied : Costs width 2 negotiation (negotiation.applyRemote answer .answer user).1 :=
    costs_applyRemote negotiation answer .answer user
  unfold acceptAnswer
  split
  · exact costs_of_same rfl rfl rfl
  · split
    · rename_i rejected fault reply
      rw [reply] at applied
      exact applied
    · rename_i taken reply
      rw [reply] at applied
      exact applied.trans (costs_addRemoteCandidates taken candidates)

/-- An answer that was sent during the call is only applied, an offer is answered. -/
theorem costs_renegotiate (negotiation : Negotiation Scripted) (description : String)
    (user : UserId) (isAnswer : Bool) :
    Costs width (if isAnswer then 2 else width + 11) negotiation
      (negotiation.renegotiate description user isAnswer).1 := by
  have applied (kind : DescriptionKind) :
      Costs width 2 negotiation (negotiation.applyRemote description kind user).1 :=
    costs_applyRemote negotiation description kind user
  unfold renegotiate
  by_cases refused : (!negotiation.hasPipeline || !negotiation.progress.isNegotiated) = true
  · rw [if_pos refused]
    exact costs_of_same rfl rfl rfl
  · rw [if_neg refused]
    cases isAnswer with
    | true =>
        have answer := applied .answer
        rw [if_pos rfl, if_pos rfl]
        split
        all_goals
          rename_i reply
          rw [reply] at answer
          exact answer
    | false =>
        have offer := applied .offer
        rw [if_neg Bool.false_ne_true, if_neg Bool.false_ne_true]
        split
        · rename_i rejected fault reply
          rw [reply] at offer
          exact offer.mono (by omega)
        · rename_i taken reply
          rw [reply] at offer
          have answered : Costs width (width + 9) taken (taken.tell .answer) := costs_tell _ _
          exact (offer.trans answered).mono (by omega)

/-! ## Callbacks -/

theorem loads_moveTo (negotiation : Negotiation Scripted) (stage : Progress) :
    Notice.loads width (negotiation.moveTo stage).2 = 0 := by
  unfold moveTo
  split <;> rfl

theorem loads_beginConnecting (negotiation : Negotiation Scripted) :
    Notice.loads width negotiation.beginConnecting.2 = 0 := by
  unfold beginConnecting
  split
  · exact loads_moveTo negotiation .connecting
  · rfl

/-- Following the search leads to nothing that would have to be sent. -/
theorem loads_followIce (negotiation : Negotiation Scripted) :
    Notice.loads width negotiation.followIce.2 = 0 := by
  have begun : Notice.loads width negotiation.beginConnecting.2 = 0 :=
    loads_beginConnecting negotiation
  unfold followIce
  split
  · exact begun
  · dsimp only
    split
    · rw [Notice.loads_append, begun, loads_moveTo]
    · exact begun
  · dsimp only
    split
    · rw [Notice.loads_append, begun, loads_moveTo]
    · exact begun
  · split
    · rw [Notice.loads_append, loads_moveTo]
      rfl
    · rfl
  · rfl
  · rfl
  · rfl

/-- The report of the description was weighed in advance. -/
theorem load_report (negotiation : Negotiation Scripted) :
    negotiation.report.1.load width + Notice.loads width negotiation.report.2 ≤
      negotiation.load width := by
  have sent (stage : Progress) (notice : Notice) (created : notice.load width = 27)
      (silent : negotiation.described = false) :
      ({ negotiation with described := true }.moveTo stage).1.load width +
        Notice.loads width (notice :: ({ negotiation with described := true }.moveTo stage).2) ≤
          negotiation.load width := by
    rw [Notice.loads_cons, loads_moveTo, moveTo_fst, created]
    simp only [load, silent, if_true, Bool.false_eq_true, if_false]
    omega
  unfold report
  split
  · exact Nat.le_refl _
  · -- From here on the 27 that a negotiation without a report carries pay for the notice.
    rename_i unreported
    have silent : negotiation.described = false := by
      simp only [Bool.or_eq_true, decide_eq_true_eq, not_or, Bool.not_eq_true] at unreported
      exact unreported.1
    split
    · exact Nat.le_refl _
    · dsimp only
      split
      · exact sent .offerSent _ rfl silent
      · exact sent .answerSent _ rfl silent
      · simp [load, silent]

/-- A report costs nothing further: it was counted for the negotiation that had not reported. -/
theorem load_reportAndFollow (negotiation : Negotiation Scripted) :
    negotiation.reportAndFollow.1.load width + Notice.loads width negotiation.reportAndFollow.2 ≤
      negotiation.load width := by
  have followed : negotiation.report.1.followIce.1.load width =
      negotiation.report.1.load width := by
    rw [followIce_fst]
    rfl
  simp only [reportAndFollow, Notice.loads_append, loads_followIce, followed, Nat.add_zero]
  exact load_report negotiation

/-- Handling a callback uses up its load. -/
def Spends (width : Nat) (negotiation : Negotiation Scripted) (callback : Engine.Callback)
    (reply : Negotiation Scripted × List Notice) : Prop :=
  negotiation.engine.Narrow width →
    reply.1.engine.Narrow width ∧
      reply.1.load width + Notice.loads width reply.2 < negotiation.load width + callback.load width

/-- Taking note of something uses up the load of the callback that told it. -/
theorem spends_noted {callback : Engine.Callback} {reply : Negotiation Scripted × List Notice}
    (engine : reply.1.engine = negotiation.engine)
    (load : reply.1.load width + Notice.loads width reply.2 ≤ negotiation.load width) :
    Spends width negotiation callback reply := by
  intro narrow
  have positive := callback.load_pos width
  rw [engine]
  exact ⟨narrow, by omega⟩

theorem spends_followIce {callback : Engine.Callback} (state : Engine.IceState) :
    Spends width negotiation callback { negotiation with ice := state }.followIce := by
  refine spends_noted ?_ ?_
  · rw [followIce_fst]
  · rw [loads_followIce, followIce_fst]
    exact Nat.le_refl _

theorem spends_reportAndFollow {callback : Engine.Callback}
    (engine : after.engine = negotiation.engine)
    (load : after.load width = negotiation.load width) :
    Spends width negotiation callback after.reportAndFollow := by
  refine spends_noted ?_ (load ▸ load_reportAndFollow after)
  rw [reportAndFollow_fst]
  exact engine

/-- To handle a callback uses up its load. -/
theorem spends_handle (negotiation : Negotiation Scripted) (callback : Engine.Callback) :
    Spends width negotiation callback (negotiation.handle callback) := by
  have still : Spends width negotiation callback (negotiation, []) :=
    spends_noted rfl (Nat.le_refl _)
  unfold handle
  split
  · cases callback with
    | negotiationNeeded =>
        simp only [handleRunning]
        split
        · -- The wish for an offer weighs one more than the offer with all that follows it.
          intro narrow
          obtain ⟨stillNarrow, within⟩ := costs_tell negotiation .offer narrow
          exact ⟨stillNarrow, Nat.lt_succ_of_le within⟩
        · exact still
    | localDescription description kind =>
        simp only [handleRunning]
        split
        · intro narrow
          refine ⟨narrow, ?_⟩
          simp only [Notice.loads_cons, Notice.loads_nil, Notice.load, Engine.Callback.load]
          omega
        · split
          · exact spends_reportAndFollow rfl rfl
          · exact spends_noted rfl (Nat.le_refl _)
    | localCandidate candidate => exact spends_noted rfl (Nat.le_refl _)
    | gatheringComplete => exact spends_reportAndFollow rfl rfl
    | iceChanged state => exact spends_followIce state
    | remoteStream stream medium =>
        simp only [handleRunning]
        split
        · exact spends_noted rfl (Nat.le_refl _)
        · exact still
    | pipelineFailed message => exact spends_noted rfl (Nat.le_refl _)
    | endOfStream => exact spends_noted rfl (Nat.le_refl _)
  · exact still

end Negotiation

end RoomCall
