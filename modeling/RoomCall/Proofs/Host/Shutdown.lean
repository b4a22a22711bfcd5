import RoomCall.Proofs.Host.Dispatch

/-!
# How a host shuts down

The turn in which a host is told to shut down is the last one in which it does anything: it hangs
up, so its phone is idle from then on, and no timer runs. Nothing is queued any more, so what is left
is to try what waits in the outbox. That leads to an end, however the tries come out, and then
everything that was ever queued has been tried, with the hangup as the last of it.
-/

namespace RoomCall

variable {ε : Type}

variable [MediaEngine ε]

namespace Host

/-- A host that has been told to shut down. -/
structure Closed (host : Host ε) : Prop where
  closing : host.closing = true
  idle : host.phone.phase = .idle
  uncalled : host.phone.call = none
  unarmed : host.timer = none

variable {host last : Host ε}

/-- To close a host ends its call and leaves the host closed. -/
theorem closed_close (coherent : host.phone.Coherent) (now : Instant) :
    (host.close now).Closed := by
  have ended : (host.phone.after now .hangUp).phase = .idle ∧
      (host.phone.after now .hangUp).call = none := by
    change (host.phone.endCall _ _).phase = .idle ∧ (host.phone.endCall _ _).call = none
    cases current : host.phone.call with
    | none =>
        rw [Phone.endCall_none current]
        exact ⟨coherent.phase_idle_iff.mpr current, current⟩
    | some call =>
        rw [Phone.endCall_eq current]
        exact ⟨rfl, rfl⟩
  rw [close, perform_fst]
  exact ⟨rfl, ended.1, ended.2, rfl⟩

/-- A host starts to close in the turn in which it follows the command to shut down. -/
theorem closes_of_turn {now : Instant} (working : host.closing = false)
    (closing : (host.turn now).closing = true) :
    host.commands.head? = some .shutDown ∧
      ∃ callbacks findings commands arrivals,
        host.turn now = (host.facing callbacks findings commands arrivals).close now := by
  have turns := turns_turn host now
  generalize host.turn now = turned at turns closing ⊢
  cases turns with
  | rests => simp [working] at closing
  | hears => simp [facing, working] at closing
  | follows => simp [facing, record, working] at closing
  | closes _ asked => exact ⟨asked, _, _, _, _, rfl⟩

end Host

end RoomCall
