import RoomCall.Engine.Rehearsal
import RoomCall.Proofs.Negotiation.Pieces

/-!
# How final the last stages are

A negotiation that is disconnected does nothing and asks nothing of its engine, whatever it hears and
whatever is asked of it, until it is opened. It keeps no account of whether it was ever under way, so
one that was taken down, or could not be built, is opened again like a new one: being disconnected is
as final as its owner makes it. A failed search for a path is final but for the teardown.
-/

namespace RoomCall.Negotiation

/-- Whether an operation opens a negotiation that is down: it is started, or offered something that
it can take. -/
def Operation.opens : Operation → Bool
  | .start _ => true
  | .acceptOffer _ offer _ _ => Description.hasCompatibleAudio offer
  | _ => false

variable {ε : Type} [MediaEngine ε] {negotiation : Negotiation ε} {operation : Operation}
  {operations : List Operation} {stage : Progress}

/-- What the engine has been asked for. -/
abbrev asked (negotiation : Negotiation ε) : List Engine.Request :=
  Traffic.requests negotiation.traffic

/-- A negotiation stays at a stage, whichever of some operations have come. -/
def StaysAt (stage : Progress) (negotiation : Negotiation ε) (operations : List Operation) : Prop :=
  ∀ upTo, upTo <+: operations → (negotiation.after upTo).progress = stage

/-- A negotiation asks nothing of its engine, whichever of some operations have come. -/
def AsksNothing (negotiation : Negotiation ε) (operations : List Operation) : Prop :=
  ∀ upTo, upTo <+: operations → (negotiation.after upTo).asked = negotiation.asked

theorem StaysAt.head (stays : StaysAt stage negotiation (operation :: operations)) :
    (negotiation.perform operation).1.progress = stage :=
  stays [operation] (by simp)

theorem StaysAt.tail (stays : StaysAt stage negotiation (operation :: operations)) :
    StaysAt stage (negotiation.perform operation).1 operations :=
  fun upTo within => stays (operation :: upTo) ((List.prefix_cons_inj operation).mpr within)

theorem AsksNothing.head (nothing : AsksNothing negotiation (operation :: operations)) :
    (negotiation.perform operation).1.asked = negotiation.asked :=
  nothing [operation] (by simp)

theorem AsksNothing.tail (nothing : AsksNothing negotiation (operation :: operations)) :
    AsksNothing (negotiation.perform operation).1 operations :=
  fun upTo within => (nothing (operation :: upTo) ((List.prefix_cons_inj operation).mpr within)).trans
    nothing.head.symm

/-! ## Disconnected -/

/-- A negotiation that is down and is not opened is left as it is. -/
theorem Upright.perform_down (upright : negotiation.Upright)
    (down : negotiation.progress = .disconnected) (closed : operation.opens = false) :
    (negotiation.perform operation).1 = negotiation := by
  have silent := upright.down down
  cases operation with
  | start => simp [Operation.opens] at closed
  | acceptOffer pipeline offer candidates user =>
      have unfit : Description.hasCompatibleAudio offer = false := closed
      simp [perform, acceptOffer, down, unfit]
  | acceptAnswer => simp [perform, acceptAnswer, down]
  | renegotiate => simp [perform, renegotiate, silent]
  | acceptCandidates => simp [perform, acceptCandidates, silent]
  | finish => simp [perform, finish, silent, down]
  | setMuted => simp [perform, setMuted, canMute, silent]
  | toggleCamera => simp [perform, toggleCamera, silent]
  | handle => simp [perform, handle, silent]

/-- A disconnected negotiation is not moved by operations that do not open it again. -/
theorem Upright.after_down (upright : negotiation.Upright)
    (down : negotiation.progress = .disconnected)
    (closed : ∀ operation ∈ operations, operation.opens = false) :
    negotiation.after operations = negotiation := by
  induction operations with
  | nil => rfl
  | cons operation later ih =>
      rw [after_cons, upright.perform_down down (closed operation (by simp))]
      exact ih fun operation there => closed operation (by simp [there])

/-- Building is asked of the engine, and what follows is asked after it. -/
theorem asked_build_prefix (down : negotiation.progress = .disconnected) (side : Role)
    (pipeline : Engine.Pipeline) :
    negotiation.asked ++ [.build pipeline] <+:
      (({ negotiation with role := some side } : Negotiation ε).build pipeline).1.asked := by
  rcases @build_cases ε _ { negotiation with role := some side } down pipeline with
    ⟨fault, -, refused⟩ | ⟨-, built⟩
  · rw [refused]
    simp [asked]
  · rw [built]
    simp [asked]

/-- A disconnected negotiation that is started asks its engine for a pipeline. -/
theorem asked_start (down : negotiation.progress = .disconnected) (pipeline : Engine.Pipeline) :
    negotiation.asked ++ [.build pipeline] <+: (negotiation.start pipeline).1.asked := by
  have builds := asked_build_prefix down .offering pipeline
  rw [start, if_neg (by simp [down])]
  generalize ({ negotiation with role := some .offering } : Negotiation ε).build pipeline = reply
    at builds ⊢
  rcases reply with ⟨built, error | notices⟩
  · exact builds
  · exact builds.trans (by simp [asked])

theorem asked_acceptOffer (down : negotiation.progress = .disconnected)
    (pipeline : Engine.Pipeline) {offer : String} (fit : Description.hasCompatibleAudio offer = true)
    (candidates : List Candidate) (user : UserId) :
    negotiation.asked ++ [.build pipeline] <+:
      (negotiation.acceptOffer pipeline offer candidates user).1.asked := by
  have builds := asked_build_prefix down .answering pipeline
  rw [acceptOffer, if_neg (by simp [down]), if_neg (by simp [fit])]
  generalize ({ negotiation with role := some .answering } : Negotiation ε).build pipeline = reply
    at builds ⊢
  rcases reply with ⟨built, error | notices⟩
  · exact builds
  · have applies : built.asked <+: (built.applyRemote offer .offer user).1.asked := by
      simp [asked]
    dsimp only at builds ⊢
    generalize built.applyRemote offer .offer user = reply at applies ⊢
    rcases reply with ⟨applied, _ | fault⟩
    · refine (builds.trans applies).trans ?_
      simp [asked, requests_addRemoteCandidates]
    · exact builds.trans applies

/-- A negotiation that is down and is opened has its engine build a pipeline. -/
theorem asked_perform_opening (down : negotiation.progress = .disconnected)
    (opening : operation.opens = true) :
    ∃ pipeline, negotiation.asked ++ [.build pipeline] <+:
      (negotiation.perform operation).1.asked := by
  cases operation with
  | start pipeline => exact ⟨pipeline, asked_start down pipeline⟩
  | acceptOffer pipeline offer candidates user =>
      exact ⟨pipeline, asked_acceptOffer down pipeline opening candidates user⟩
  | _ => cases opening

/-- A disconnected negotiation rests exactly as long as nothing opens it again. -/
theorem Upright.rests_iff (upright : negotiation.Upright)
    (down : negotiation.progress = .disconnected) :
    StaysAt .disconnected negotiation operations ∧ AsksNothing negotiation operations ↔
      ∀ operation ∈ operations, operation.opens = false := by
  constructor
  · rintro ⟨stays, nothing⟩
    induction operations generalizing negotiation with
    | nil => simp
    | cons operation later ih =>
        have closed : operation.opens = false := by
          refine Bool.eq_false_iff.mpr fun opening => ?_
          obtain ⟨pipeline, more⟩ := asked_perform_opening down opening
          rw [nothing.head] at more
          have longer := more.length_le
          rw [List.length_append, List.length_singleton] at longer
          omega
        have rests := ih ((upright.pieces operation).upright upright) stays.head stays.tail
          nothing.tail
        exact List.forall_mem_cons.mpr ⟨closed, rests⟩
  · intro closed
    have still (upTo : List Operation) (within : upTo <+: operations) :
        negotiation.after upTo = negotiation :=
      upright.after_down down fun operation there => closed operation (within.subset there)
    exact ⟨fun upTo within => by rw [still upTo within, down],
      fun upTo within => by rw [still upTo within]⟩

/-! ## Failed -/

omit [MediaEngine ε] in
theorem followIce_iceFailed (failed : negotiation.progress = .iceFailed) :
    negotiation.followIce = (negotiation, []) := by
  cases ice : negotiation.ice <;>
    simp [followIce, ice, beginConnecting, isAwaitingIce, failed]

omit [MediaEngine ε] in
theorem reportAndFollow_iceFailed (failed : negotiation.progress = .iceFailed) :
    negotiation.reportAndFollow = (negotiation, []) := by
  have silent : negotiation.report = (negotiation, []) := by simp [report, failed]
  simp [reportAndFollow, silent, followIce_iceFailed failed]

/-- No callback leads out of a failed search. -/
theorem progress_handle_iceFailed (failed : negotiation.progress = .iceFailed)
    (callback : Engine.Callback) : (negotiation.handle callback).1.progress = .iceFailed := by
  unfold handle
  split
  · have response := negotiation.response_handleRunning callback
    generalize negotiation.handleRunning callback = result at response ⊢
    cases response with
    | asks | renegotiates | tells => exact failed
    | notes remembers => exact remembers.progress.trans failed
    | follows remembers =>
        have noted := remembers.progress.trans failed
        rw [followIce_iceFailed noted]
        exact noted
    | reports remembers =>
        have noted := remembers.progress.trans failed
        rw [reportAndFollow_iceFailed noted]
        exact noted
  · exact failed

/-- Nothing but the end leads out of a failed search. -/
theorem progress_perform_iceFailed (failed : negotiation.progress = .iceFailed)
    (lasts : operation ≠ .finish) : (negotiation.perform operation).1.progress = .iceFailed := by
  have kept {after : Negotiation ε} (same : after.bearing = negotiation.bearing) :
      after.progress = .iceFailed :=
    (progress_of_bearing same).trans failed
  cases operation with
  | start pipeline => simp [perform, start, failed]
  | acceptOffer pipeline offer candidates user => simp [perform, acceptOffer, failed]
  | acceptAnswer answer candidates user => simp [perform, acceptAnswer, failed]
  | renegotiate description user isAnswer =>
      exact kept (bearing_renegotiate description user isAnswer)
  | acceptCandidates candidates =>
      rw [perform, acceptCandidates]
      split
      · exact kept (bearing_addRemoteCandidates candidates)
      · exact failed
  | finish => exact absurd rfl lasts
  | setMuted muted => exact kept (bearing_setMuted muted)
  | toggleCamera => exact kept bearing_toggleCamera
  | handle callback => exact progress_handle_iceFailed failed callback

theorem progress_finish : negotiation.finish.1.progress = .disconnected := by
  have left (ended : Negotiation ε) : (ended.moveTo .disconnected).1.progress = .disconnected := by
    by_cases down : ended.progress = .disconnected
    · rw [moveTo_self down, down]
    · rw [moveTo_of_canBecome (canBecome_disconnected_of_ne down)]
  rw [finish_eq]
  exact left _

/-- A failed search stays failed exactly until the negotiation is ended. -/
theorem staysAt_iceFailed_iff (failed : negotiation.progress = .iceFailed) :
    StaysAt .iceFailed negotiation operations ↔ .finish ∉ operations := by
  constructor
  · intro stays
    induction operations generalizing negotiation with
    | nil => simp
    | cons operation later ih =>
        have lasts : operation ≠ .finish := by
          rintro rfl
          have still := stays.head
          rw [perform] at still
          rw [progress_finish] at still
          cases still
        exact List.not_mem_cons_of_ne_of_not_mem (Ne.symm lasts) (ih stays.head stays.tail)
  · intro lasts upTo within
    induction operations generalizing negotiation upTo with
    | nil => rw [List.prefix_nil.mp within, after_nil, failed]
    | cons operation later ih =>
        rw [List.mem_cons, not_or] at lasts
        rcases List.prefix_cons_iff.mp within with rfl | ⟨rest, rfl, inside⟩
        · exact failed
        · exact ih (progress_perform_iceFailed failed (Ne.symm lasts.1)) lasts.2 rest inside

/-! ## Both -/

/-- At every moment of a negotiation: if it is disconnected, it stays so and leaves its engine alone
just as long as it is not opened, and then it is not changed at all; if its search for a path failed,
it stays so just as long as it is not taken down. -/
theorem last_stages (id : SessionId) (engine : ε) (earlier later : List Operation) :
    (((fresh id engine).after earlier).progress = .disconnected →
        ((StaysAt .disconnected ((fresh id engine).after earlier) later ∧
            AsksNothing ((fresh id engine).after earlier) later) ↔
          ∀ operation ∈ later, operation.opens = false) ∧
        ((∀ operation ∈ later, operation.opens = false) →
          ((fresh id engine).after earlier).after later = (fresh id engine).after earlier)) ∧
      (((fresh id engine).after earlier).progress = .iceFailed →
        (StaysAt .iceFailed ((fresh id engine).after earlier) later ↔ .finish ∉ later)) := by
  have upright := (upright_fresh id engine).after earlier
  exact ⟨fun down => ⟨upright.rests_iff down, upright.after_down down⟩, staysAt_iceFailed_iff⟩

/-- An engine that accepts everything and reports nothing. -/
def patient : Engine.Rehearsal := { player := .silent {} }

theorem last_stages_patient :
    (StaysAt .disconnected ((fresh 0 patient).after [.start {}, .finish])
        [.acceptCandidates [], .handle .negotiationNeeded, .finish] ∧
      AsksNothing ((fresh 0 patient).after [.start {}, .finish])
        [.acceptCandidates [], .handle .negotiationNeeded, .finish]) ∧
      (((fresh 0 patient).after [.start {}, .finish]).after [.setMuted true]).progress =
        .disconnected ∧
      StaysAt .iceFailed ((fresh 0 patient).after [.start {}, .handle (.iceChanged .failed)])
        [.start {}, .handle (.iceChanged .connected)] := by
  have ended := (last_stages 0 patient [.start {}, .finish]
    [.acceptCandidates [], .handle .negotiationNeeded, .finish]).1 (by decide)
  have muted := (last_stages 0 patient [.start {}, .finish] [.setMuted true]).1 (by decide)
  have failed := (last_stages 0 patient [.start {}, .handle (.iceChanged .failed)]
    [.start {}, .handle (.iceChanged .connected)]).2 (by decide)
  exact ⟨ended.1.mpr (by decide), by rw [muted.2 (by decide)]; decide, failed.mpr (by decide)⟩

/-- A negotiation that was taken down can be started again. -/
theorem exists_reopening :
    ∃ (earlier : List Operation) (pipeline : Engine.Pipeline),
      (((fresh 0 patient).after earlier).perform .finish).1.progress = .disconnected ∧
      ((((fresh 0 patient).after earlier).perform .finish).1.perform (.start pipeline)).1.progress =
        .initiated ∧
      ((((fresh 0 patient).after earlier).perform .finish).1.perform (.start pipeline)).1.asked =
        (((fresh 0 patient).after earlier).perform .finish).1.asked ++ [.build pipeline, .offer] :=
  ⟨[.start {}], {}, by decide, by decide, by decide⟩

end RoomCall.Negotiation
