import RoomCall.Proofs.Phone.Effects

/-!
# How the fields of a phone agree

`Call.Stands` lists the situations in which a call can be between two occurrences: it rings, it was
accepted and waits for relay credentials, it was accepted and its negotiation has not answered yet,
it was started and waits for relay credentials, its offer is made or out, or it is established.
`Phone.Coherent` says that the fields of a phone describe one of these situations, and that the
roster fits it.
-/

namespace RoomCall

variable {ε : Type}

/-- The users on a roster. -/
def Roster.users (roster : Roster) : List UserId :=
  roster.map Participant.user

/-- The situations in which a call can be while the phone is in some phase. -/
inductive Call.Stands (refreshing : Bool) : Phase → Call ε → Prop where
  /-- The call rings. Its offer is held back. -/
  | ringing {call : Call ε} (unopened : call.negotiation = none)
      (unaccepted : call.accepted = false) (undeferred : call.deferred = none)
      (offer : call.heldDescription.isSome = true) : Stands refreshing .incoming call
  /-- The call was accepted and waits for relay credentials. Its offer is still held back. -/
  | awaitingAnswer {call : Call ε} (unopened : call.negotiation = none)
      (accepted : call.accepted = true) (deferred : call.deferred = some .answering)
      (requested : refreshing = true) (offer : call.heldDescription.isSome = true) :
      Stands refreshing .incoming call
  /-- The call was accepted and its negotiation makes an answer. Nothing is held back. -/
  | answering {call : Call ε} {negotiation : Negotiation ε}
      (opened : call.negotiation = some negotiation) (runs : negotiation.Runs .answering)
      (initiated : negotiation.progress = .initiated) (accepted : call.accepted = true)
      (undeferred : call.deferred = none) (noDescription : call.heldDescription = none)
      (noCandidates : call.heldCandidates = []) : Stands refreshing .incoming call
  /-- The call was started and waits for relay credentials. -/
  | awaitingOffer {call : Call ε} (unopened : call.negotiation = none)
      (unaccepted : call.accepted = false) (deferred : call.deferred = some .offering)
      (requested : refreshing = true) : Stands refreshing .outgoing call
  /-- The call was started and its negotiation makes or has made an offer. -/
  | offering {call : Call ε} {negotiation : Negotiation ε}
      (opened : call.negotiation = some negotiation) (runs : negotiation.Runs .offering)
      (unaccepted : call.accepted = false) (undeferred : call.deferred = none) :
      Stands refreshing .outgoing call
  /-- The call is established. Nothing is held back. -/
  | established {call : Call ε} {negotiation : Negotiation ε} {side : Role}
      (opened : call.negotiation = some negotiation) (runs : negotiation.Runs side)
      (negotiated : negotiation.progress.isNegotiated = true) (undeferred : call.deferred = none)
      (noDescription : call.heldDescription = none) (noCandidates : call.heldCandidates = []) :
      Stands refreshing .active call

/-- The fields of a phone agree with each other. -/
structure Phone.Coherent (phone : Phone ε) : Prop where
  /-- Without a call the phone is idle, and nobody is on the roster. -/
  idle : phone.call = none → phone.phase = .idle ∧ phone.roster = []
  /-- A call is in one of its situations, and never in the idle phase. -/
  stands : ∀ {call}, phone.call = some call → call.Stands phone.refreshing phone.phase
  /-- The other side of a call is another user. -/
  apart : ∀ {call}, phone.call = some call → call.remoteUser ≠ call.localUser
  /-- Everything that passed between a negotiation and its engine is in the log. -/
  collected : ∀ {call negotiation}, phone.call = some call →
    call.negotiation = some negotiation → negotiation.traffic = []
  /-- Nobody is on the roster twice. -/
  nodup : phone.roster.users.Nodup
  /-- Once the local description was reported, all members of the room are on the roster. -/
  listed : ∀ {call negotiation}, phone.call = some call →
    call.negotiation = some negotiation → negotiation.described = true →
    ∀ member ∈ call.members, member ∈ phone.roster.users

namespace Call.Stands

variable {refreshing : Bool} {phase : Phase} {call : Call ε} {negotiation : Negotiation ε}

theorem phase_ne_idle (stands : call.Stands refreshing phase) : phase ≠ .idle := by
  cases stands <;> simp

/-- The negotiation of a call is always under way. -/
theorem runs (stands : call.Stands refreshing phase)
    (opened : call.negotiation = some negotiation) : ∃ side, negotiation.Runs side := by
  cases stands with
  | ringing unopened | awaitingAnswer unopened | awaitingOffer unopened =>
      simp [unopened] at opened
  | answering same runs | offering same runs | established same runs =>
      rw [same, Option.some.injEq] at opened
      exact ⟨_, opened ▸ runs⟩

/-- A call with a negotiation does not wait for relay credentials. -/
theorem undeferred (stands : call.Stands refreshing phase)
    (opened : call.negotiation = some negotiation) : call.deferred = none := by
  cases stands with
  | ringing unopened | awaitingAnswer unopened | awaitingOffer unopened =>
      simp [unopened] at opened
  | answering _ _ _ _ undeferred | offering _ _ _ undeferred | established _ _ _ undeferred =>
      exact undeferred

/-- A call that has a negotiation and is not established on the side that answers was accepted. -/
theorem accepted (stands : call.Stands refreshing .incoming)
    (opened : call.negotiation = some negotiation) : call.accepted = true := by
  cases stands with
  | ringing unopened | awaitingAnswer unopened => simp [unopened] at opened
  | answering _ _ _ accepted => exact accepted

/-- A call that goes out is never accepted on this side. -/
theorem unaccepted (stands : call.Stands refreshing .outgoing) : call.accepted = false := by
  cases stands with
  | awaitingOffer _ unaccepted | offering _ _ unaccepted => exact unaccepted

/-- A call waits for relay credentials in the phase that fits its side. -/
theorem deferred_cases {side : Role} (stands : call.Stands refreshing phase)
    (deferred : call.deferred = some side) :
    (side = .offering ∧ phase = .outgoing) ∨ (side = .answering ∧ phase = .incoming) := by
  cases stands with
  | ringing _ _ undeferred | answering _ _ _ _ undeferred | offering _ _ _ undeferred
    | established _ _ _ undeferred => simp [undeferred] at deferred
  | awaitingAnswer _ _ waits =>
      rw [waits, Option.some.injEq] at deferred
      exact .inr ⟨deferred.symm, rfl⟩
  | awaitingOffer _ _ waits =>
      rw [waits, Option.some.injEq] at deferred
      exact .inl ⟨deferred.symm, rfl⟩

/-- A call waits for relay credentials only while they have been asked for. -/
theorem requested {side : Role} (stands : call.Stands refreshing phase)
    (deferred : call.deferred = some side) : refreshing = true := by
  cases stands with
  | awaitingAnswer _ _ _ requested | awaitingOffer _ _ _ requested => exact requested
  | ringing _ _ undeferred | answering _ _ _ _ undeferred | offering _ _ _ undeferred
    | established _ _ _ undeferred => simp [undeferred] at deferred

end Call.Stands

namespace Phone.Coherent

variable {phone : Phone ε} {call : Call ε}

theorem phase_idle_iff (coherent : phone.Coherent) : phone.phase = .idle ↔ phone.call = none := by
  constructor
  · intro idle
    cases current : phone.call with
    | none => rfl
    | some call => exact absurd idle (coherent.stands current).phase_ne_idle
  · exact fun none => (coherent.idle none).1

/-- A phone without a call and with an empty roster is coherent. -/
theorem of_idle (idle : phone.call = none) (phase : phone.phase = .idle)
    (roster : phone.roster = []) : phone.Coherent where
  idle _ := ⟨phase, roster⟩
  stands current := by simp [idle] at current
  apart current := by simp [idle] at current
  collected current := by simp [idle] at current
  nodup := by simp [roster, Roster.users]
  listed current := by simp [idle] at current

end Phone.Coherent

/-! ## Rosters -/

namespace Roster

variable {roster : Roster}

theorem contains_iff (user : UserId) : roster.contains user = true ↔ user ∈ roster.users := by
  simp [contains, users]

theorem users_add (user : UserId) :
    (roster.add user).users = if user ∈ roster.users then roster.users
      else roster.users ++ [user] := by
  by_cases known : user ∈ roster.users
  · rw [if_pos known, add, if_pos ((contains_iff user).mpr known)]
  · rw [if_neg known, add, if_neg (mt (contains_iff user).mp known)]
    simp [users]

@[simp]
theorem users_setCamera (user : UserId) (hasCamera : Bool) :
    (roster.setCamera user hasCamera).users = roster.users := by
  simp only [users, setCamera, List.map_map]
  apply List.map_congr_left
  intro participant _
  simp only [Function.comp_apply]
  split <;> rfl

theorem nodup_add (nodup : roster.users.Nodup) (user : UserId) : (roster.add user).users.Nodup := by
  rw [users_add]
  split
  · exact nodup
  · rename_i unknown
    exact List.nodup_append.mpr ⟨nodup, by simp, by
      intro known there other new same
      rw [List.mem_singleton] at new
      exact unknown (new ▸ same ▸ there)⟩

theorem mem_add {user other : UserId} :
    other ∈ (roster.add user).users ↔ other ∈ roster.users ∨ other = user := by
  rw [users_add]
  split
  · rename_i known
    constructor
    · exact .inl
    · rintro (there | rfl)
      · exact there
      · exact known
  · simp

theorem nodup_addAll (nodup : roster.users.Nodup) (members : List UserId) :
    (roster.addAll members).users.Nodup := by
  induction members generalizing roster with
  | nil => exact nodup
  | cons member later ih => exact ih (nodup_add nodup member)

/-- Adding several users keeps everybody and puts each of them on the roster. -/
theorem mem_addAll {members : List UserId} {user : UserId} :
    user ∈ (roster.addAll members).users ↔ user ∈ roster.users ∨ user ∈ members := by
  induction members generalizing roster with
  | nil => simp [addAll]
  | cons member later ih =>
      have step : roster.addAll (member :: later) = (roster.add member).addAll later := rfl
      rw [step, ih, mem_add, List.mem_cons, or_assoc]

end Roster

end RoomCall
