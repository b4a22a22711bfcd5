import RoomCall.Proofs.Phone.Handling

/-!
# What stays on a phone

No occurrence changes the settings of a phone or the place where it gets its engines. A phone that
waits for relay credentials has asked for them, and the end of a request ends the waiting.
-/

namespace RoomCall.Phone

variable {ε : Type}

/-- A later phone has the same settings and engines, and if it waits for relay credentials and did
not wait before, it has asked for them. -/
structure Steady (phone after : Phone ε) : Prop where
  settings : after.settings = phone.settings
  maker : after.maker = phone.maker
  asked : after.refreshing = true →
    phone.refreshing = true ∨ .errand .refreshRelay ∈ after.log

variable [MediaEngine ε] {phone after : Phone ε} {call : Call ε} {side : Role}

theorem refreshing_of_opens (opens : phone.Opens call side after) :
    after.refreshing = phone.refreshing := by
  cases opens <;> rfl

theorem steady_of_opens (opens : phone.Opens call side after) : phone.Steady after := by
  refine ⟨?_, ?_, fun waits => .inl (refreshing_of_opens opens ▸ waits)⟩ <;> cases opens <;> rfl

theorem steady_of_starts (starts : phone.Starts call side after) : phone.Steady after := by
  cases starts with
  | opens opens => exact steady_of_opens opens
  | waits =>
      refine ⟨rfl, rfl, fun _ => ?_⟩
      cases phone.refreshing <;> simp

theorem steady_of_settles (settles : phone.Settles call after) : phone.Steady after := by
  cases settles <;> exact ⟨rfl, rfl, .inl⟩

/-- A reaction to a callback changes neither settings nor engines and waits for no credentials. -/
theorem steady_of_reacts {before handled : Negotiation ε}
    (reacts : phone.Reacts call side before handled after) : phone.Steady after := by
  cases reacts with
  | watched =>
      rw [setRoster_eq]
      exact ⟨rfl, rfl, .inl⟩
  | renegotiated =>
      rw [sendNegotiate_eq]
      exact ⟨rfl, rfl, .inl⟩
  | moved | reported | broken | lost | reportedLost => exact ⟨rfl, rfl, .inl⟩

/-- Every move leaves settings and engines as they are, and no credentials are awaited that were not
asked for. -/
theorem steady_of_move {now : Instant} {occurrence : Occurrence}
    (move : phone.Move now occurrence after) : phone.Steady after := by
  cases move with
  | refreshed => exact ⟨rfl, rfl, fun waits => absurd waits (by simp [refreshed])⟩
  | resumed _ _ _ opens =>
      have steady := steady_of_opens opens
      refine ⟨steady.settings, steady.maker, fun waits => ?_⟩
      rw [refreshing_of_opens opens] at waits
      exact absurd waits (by simp [Phone.refreshed])
  | rang =>
      refine ⟨rfl, rfl, ?_⟩
      cases asked : phone.refreshing <;> cases fresh : phone.relay.isFresh now <;>
        simp [ringing, asked, fresh]
  | dialed _ _ _ _ starts =>
      have steady := steady_of_starts starts
      exact ⟨steady.settings, steady.maker, steady.asked⟩
  | accepted _ _ _ _ _ starts =>
      have steady := steady_of_starts starts
      exact ⟨steady.settings, steady.maker, steady.asked⟩
  | gathered _ _ _ _ settles =>
      have steady := steady_of_settles settles
      exact ⟨steady.settings, steady.maker, steady.asked⟩
  | answered _ _ _ _ _ settles =>
      have steady := steady_of_settles settles
      exact ⟨steady.settings, steady.maker, steady.asked⟩
  | reacted _ _ _ _ reacts => exact steady_of_reacts reacts
  | still | plugged | ended | held | handed | renegotiated | muted | toggled =>
      exact ⟨rfl, rfl, .inl⟩

/-- Every occurrence leaves settings and engines as they are, and no credentials are awaited that
were not asked for. -/
theorem steady_after (coherent : phone.Coherent) (now : Instant) (occurrence : Occurrence) :
    phone.Steady (phone.after now occurrence) :=
  steady_of_move (move_after coherent now occurrence)

theorem refreshing_openNegotiation (current : phone.call = some call) (side : Role) :
    (phone.openNegotiation side).refreshing = phone.refreshing :=
  refreshing_of_opens (opens_openNegotiation current side)

theorem refreshing_resume : phone.resume.refreshing = phone.refreshing := by
  unfold resume
  split
  · rfl
  · dsimp only
    split
    · exact (refreshing_openNegotiation rfl .offering).trans rfl
    · exact (refreshing_openNegotiation rfl .answering).trans rfl
    · rfl

/-- When a request for relay credentials is over, the phone no longer waits for it. -/
theorem refreshing_relayRefreshed (now : Instant) (outcome : Except String Relay.Grant) :
    (phone.relayRefreshed now outcome).refreshing = false := by
  rw [relayRefreshed_eq, refreshing_resume]
  rfl

end RoomCall.Phone
