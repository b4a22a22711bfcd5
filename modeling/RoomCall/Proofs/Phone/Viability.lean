import RoomCall.Proofs.Negotiation.Usage
import RoomCall.Proofs.Phone.Coherence

/-!
# Calls that can go on

A call that a phone has can always go on: the search of its negotiation for a path has not failed,
and if it waits to be answered, its offer has a usable codec. Both are kept by every move, since a
failed search ends the call in the step in which it is reported, and an offer is looked at before
the call is accepted. So a negotiation never gives its first description away after its search has
failed, and an engine is never made for an offer that cannot be answered.
-/

namespace RoomCall

variable {ε : Type}

/-- A call that can go on. -/
structure Call.Viable (call : Call ε) : Prop where
  hopeful : ∀ {negotiation}, call.negotiation = some negotiation → negotiation.ice ≠ .failed
  compatible : call.deferred = some .answering →
    call.heldDescription.any Description.hasCompatibleAudio = true

namespace Phone

/-- A phone whose call, if it has one, can go on. -/
def Viable (phone : Phone ε) : Prop :=
  ∀ call, phone.call = some call → call.Viable

variable {phone after : Phone ε} {call : Call ε} {side : Role}

theorem viable_of_call (call : Call ε) (current : phone.call = some call) (viable : call.Viable) :
    phone.Viable := by
  intro other there
  rw [current, Option.some.injEq] at there
  exact there ▸ viable

theorem viable_of_idle (idle : phone.call = none) : phone.Viable := by
  simp [Viable, idle]

/-- A call with a negotiation that goes on does not wait for relay credentials. -/
theorem Coherent.viable_keep {negotiation asked : Negotiation ε} (coherent : phone.Coherent)
    (current : phone.call = some call) (opened : call.negotiation = some negotiation)
    (hopeful : asked.ice ≠ .failed) : (call.keeping asked).Viable where
  hopeful := by
    rintro other ⟨⟩
    exact hopeful
  compatible waits := by
    have undeferred := (coherent.stands current).undeferred opened
    simp [Call.keeping, undeferred] at waits

variable [MediaEngine ε]

/-- The negotiation of a call whose offer can be answered gets under way as the protocol says, or
its engine refuses. -/
theorem begins_opening (phone : Phone ε) (side : Role)
    (compatible : side = .answering →
      call.heldDescription.any Description.hasCompatibleAudio = true) :
    Negotiation.Begins side
      ({ id := phone.nextSession, engine := phone.maker.make phone.nextSession } : Negotiation ε)
      (phone.opening call side) := by
  cases side with
  | offering => exact Negotiation.begins_start rfl rfl _
  | answering =>
      have usable := compatible rfl
      cases held : call.heldDescription with
      | none => simp [held] at usable
      | some offer =>
          rw [held] at usable
          have begins := @Negotiation.begins_acceptOffer ε _
            { id := phone.nextSession, engine := phone.maker.make phone.nextSession } rfl rfl
            phone.pipeline offer usable (call.heldCandidates.map Prod.snd) call.remoteUser
          simpa [opening, held] using begins

theorem viable_of_opens (opens : phone.Opens call side after) (undeferred : call.deferred = none)
    (compatible : side = .answering →
      call.heldDescription.any Description.hasCompatibleAudio = true) : after.Viable := by
  cases opens with
  | refused => exact viable_of_idle rfl
  | @opened negotiation opened id outcome =>
      have begins := begins_opening phone side compatible
      rw [outcome] at begins
      have ice : negotiation.ice = .new := by
        cases begins with
        | begun ice => exact ice
      refine viable_of_call ((call.handOver side).keeping negotiation) rfl ⟨?_, ?_⟩
      · rintro other ⟨⟩
        simp [ice]
      · intro waits
        cases side <;> simp [Call.keeping, Call.handOver, Call.emptied, undeferred] at waits

theorem viable_of_starts (starts : phone.Starts call side after) (undeferred : call.deferred = none)
    (unopened : call.negotiation = none)
    (compatible : side = .answering →
      call.heldDescription.any Description.hasCompatibleAudio = true) : after.Viable := by
  cases starts with
  | opens opens => exact viable_of_opens opens undeferred compatible
  | waits =>
      refine viable_of_call { call with deferred := some side } rfl ⟨?_, ?_⟩
      · simp [unopened]
      · intro waits
        exact compatible (Option.some.inj waits)

theorem viable_of_settles (settles : phone.Settles call after) (current : phone.call = some call)
    (viable : call.Viable) (undeferred : call.deferred ≠ some .answering) : after.Viable := by
  cases settles with
  | waits => exact viable_of_call call current viable
  | refused => exact viable_of_idle rfl
  | @applied answer negotiation answered opened sent ready taken =>
      refine viable_of_call (call.emptied.keeping _) rfl ⟨?_, ?_⟩
      · rintro other ⟨⟩
        have hopeful := viable.hopeful opened
        have same := (negotiation.applyRemote answer .answer
          call.remoteUser).1.bearing_addRemoteCandidates (call.heldCandidates.map Prod.snd)
        exact fun failed => hopeful ((Negotiation.ice_of_bearing same).symm.trans failed)
      · exact fun waits => absurd waits undeferred

theorem viable_of_reacts {before : Negotiation ε} {callback : Engine.Callback}
    (reacts : phone.Reacts call side before (before.handle callback).1 after)
    (coherent : phone.Coherent) (current : phone.call = some call)
    (opened : call.negotiation = some before) (viable : call.Viable) : after.Viable := by
  have kept (runs : (before.handle callback).1.Runs side) :
      (call.keeping (before.handle callback).1).Viable :=
    coherent.viable_keep current opened
      (Negotiation.ice_handle callback (viable.hopeful opened) runs)
  cases reacts with
  | broken | lost | reportedLost => exact viable_of_idle rfl
  | moved runs => exact viable_of_call _ rfl (kept runs)
  | reported runs => exact viable_of_call _ rfl (kept runs)
  | renegotiated runs =>
      rw [sendNegotiate_eq]
      exact viable_of_call _ rfl (kept runs)
  | watched runs =>
      rw [setRoster_eq]
      exact viable_of_call _ rfl (kept runs)

/-- Every move leaves a call that can go on, or none. -/
theorem viable_of_move {now : Instant} {occurrence : Occurrence}
    (move : phone.Move now occurrence after) (coherent : phone.Coherent)
    (viable : phone.Viable) : after.Viable := by
  have waits_not {call : Call ε} (current : phone.call = some call)
      (outgoing : phone.phase = .outgoing) : call.deferred ≠ some .answering := by
    intro waits
    have stands := coherent.stands current
    rcases stands.deferred_cases waits with ⟨other, -⟩ | ⟨-, incoming⟩
    · cases other
    · rw [outgoing] at incoming
      cases incoming
  have kept {call : Call ε} {negotiation asked : Negotiation ε} (current : phone.call = some call)
      (opened : call.negotiation = some negotiation)
      (same : asked.bearing = negotiation.bearing) : (call.keeping asked).Viable := by
    refine coherent.viable_keep current opened ?_
    rw [Negotiation.ice_of_bearing same]
    exact (viable call current).hopeful opened
  cases move with
  | still | plugged => exact viable
  | refreshed => exact viable
  | @resumed outcome call side after is current deferred opens =>
      refine viable_of_opens opens rfl ?_
      rintro rfl
      exact (viable call current).compatible deferred
  | rang =>
      refine viable_of_call _ rfl ⟨?_, ?_⟩ <;> simp [ringingCall]
  | dialed is idle known capable starts => exact viable_of_starts starts rfl rfl (by simp)
  | @accepted call after is current incoming unaccepted compatible starts =>
      rcases rings_of_unaccepted coherent current incoming unaccepted with ⟨unopened, undeferred⟩
      exact viable_of_starts starts undeferred unopened fun _ => compatible
  | ended => exact viable_of_idle rfl
  | @held call batch current heard admits incoming unopened =>
      have before := viable call current
      exact viable_of_call (call.holding batch) rfl ⟨before.hopeful, before.compatible⟩
  | @gathered call batch after current heard admits outgoing settles =>
      have before := viable call current
      have waits := waits_not current outgoing
      exact viable_of_settles settles rfl ⟨before.hopeful, before.compatible⟩ waits
  | @answered call answer after current heard admits outgoing unanswered settles =>
      have before := viable call current
      have waits := waits_not current outgoing
      have answers : (call.answeredBy answer).Viable := by
        unfold Call.answeredBy bindParty
        cases answer.party <;> exact ⟨before.hopeful, fun deferred => absurd deferred waits⟩
      refine viable_of_settles settles rfl answers ?_
      unfold Call.answeredBy bindParty
      cases answer.party <;> exact waits
  | handed current opened =>
      exact viable_of_call _ rfl
        (kept current opened (Negotiation.bearing_addRemoteCandidates _))
  | renegotiated current opened =>
      exact viable_of_call _ rfl (kept current opened (Negotiation.bearing_renegotiate _ _ _))
  | muted is current opened =>
      exact viable_of_call _ rfl (kept current opened (Negotiation.bearing_setMuted _))
  | toggled is current opened =>
      exact viable_of_call _ rfl (kept current opened Negotiation.bearing_toggleCamera)
  | reacted is current opened runs reacts =>
      exact viable_of_reacts reacts coherent current opened (viable _ current)

end Phone

end RoomCall
