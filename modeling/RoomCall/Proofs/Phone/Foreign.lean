import RoomCall.Proofs.Phone.Reached

/-!
# What does not belong to the current call

A phone is told everything that happens in its rooms, and engines may go on reporting after their
negotiation is over. Most of that is not for the call it has. `Phone.Foreign` says which occurrences
are not, in every state; a phone that hears one of them is the same phone, log included, so a run
cannot be told from the same run with foreign occurrences inserted into it.
-/

namespace RoomCall

variable {ε : Type}

/-- A signal that is nothing to a call in a phase. What the local user's other devices say is
judged by `ownDevice` alone, since an answer of theirs ends a call that rings here. -/
inductive Call.Foreign (phase : Phase) (call : Call ε) (membership : Membership)
    (signal : Signal) : Prop where
  | otherCall (other : signal.message.call ≠ call.id) : Foreign phase call membership signal
  | otherRoom (other : membership.room ≠ call.room) : Foreign phase call membership signal
  /-- This device sent it, or no party is named. -/
  | echo (own : signal.sender = call.localUser)
      (here : ∀ party, signal.message.party = some party → party = call.party) :
      Foreign phase call membership signal
  /-- Another device of the local user neither hangs up nor answers a call that rings here. -/
  | ownDevice {party : PartyId} (own : signal.sender = call.localUser)
      (named : signal.message.party = some party) (elsewhere : party ≠ call.party)
      (stays : Phone.isHangup signal.message = false)
      (unanswered : ∀ answer, signal.message = .answer answer → phase ≠ .incoming) :
      Foreign phase call membership signal
  | stranger (notOurs : signal.sender ≠ call.localUser)
      (notTheirs : signal.sender ≠ call.remoteUser) :
      Foreign phase call membership signal
  /-- The party on the other side is known, and this is another one, which does not hang up. -/
  | otherParty {known party : PartyId} (notOurs : signal.sender ≠ call.localUser)
      (bound : call.remoteParty = some known) (named : signal.message.party = some party)
      (other : party ≠ known) (stays : Phone.isHangup signal.message = false) :
      Foreign phase call membership signal
  | invite {invite : Invite} (message : signal.message = .invite invite) :
      Foreign phase call membership signal
  /-- An answer to a call that does not wait for one, or that has one already. -/
  | answer {answer : Answer} (notOurs : signal.sender ≠ call.localUser)
      (message : signal.message = .answer answer)
      (late : phase ≠ .outgoing ∨ call.heldDescription.isSome = true) :
      Foreign phase call membership signal
  | negotiate {content : Renegotiation} (message : signal.message = .negotiate content)
      (early : phase ≠ .active) : Foreign phase call membership signal

namespace Phone

/-- A signal for which a phone without a call rings: an invite of another user that is no older
than the phone allows and than the invite says itself. -/
def RingsFor (phone : Phone ε) (now : Instant) (membership : Membership) (signal : Signal) : Prop :=
  ∃ invite, signal.message = .invite invite ∧ signal.sender ≠ membership.localUser ∧
    max 0 (now - signal.sentAt) ≤ phone.staleInviteAge.nanoseconds ∧
    max 0 (now - signal.sentAt) ≤ invite.lifetime.nanoseconds

/-- An occurrence that is nothing to a phone in the state it is in. -/
inductive Foreign (phone : Phone ε) (now : Instant) : Occurrence → Prop where
  /-- An event that is no call event or cannot be read. -/
  | unreadable {membership : Membership} {event : TimelineEvent} {error : SignalError}
      (unread : Signal.ofEvent event = .error error) : Foreign phone now (.event membership event)
  /-- A signal that the call has no use for, or that no call is opened for. -/
  | unheard {occurrence : Occurrence} {membership : Membership} {signal : Signal}
      (signalled : occurrence.signal? = some (membership, signal))
      (aside : ∀ call, phone.call = some call → call.Foreign phone.phase membership signal)
      (unrung : phone.call = none → ¬phone.RingsFor now membership signal) :
      Foreign phone now occurrence
  /-- A callback that is not of the current negotiation. -/
  | stale {session : SessionId} {callback : Engine.Callback}
      (other : ∀ negotiation, phone.negotiation? = some negotiation → negotiation.id ≠ session) :
      Foreign phone now (.callback session callback)

variable [MediaEngine ε] {phone : Phone ε} {now : Instant} {membership : Membership}
  {signal : Signal}

/-! ## Foreign occurrences change nothing -/

omit [MediaEngine ε] in
theorem isStale_eq_false_iff (sentAt : Instant) (invite : Invite) :
    phone.isStale now sentAt invite = false ↔
      max 0 (now - sentAt) ≤ phone.staleInviteAge.nanoseconds ∧
        max 0 (now - sentAt) ≤ invite.lifetime.nanoseconds := by
  have age : ((Instant.ago now sentAt).nanoseconds : Int) = max 0 (now - sentAt) := by
    change ((now - sentAt).toNat : Int) = _
    omega
  rw [← age]
  simp only [isStale, Bool.or_eq_false_iff, decide_eq_false_iff_not, Nat.not_lt, Int.ofNat_le]

omit [MediaEngine ε] in
/-- Exactly what another user sends is remote. -/
theorem origin_eq_remote_iff {localUser sender : UserId} {localParty party : Option PartyId} :
    Origin.of localUser localParty sender party = .remote ↔ sender ≠ localUser := by
  unfold Origin.of
  split
  · rename_i other
    exact ⟨fun _ => other, fun _ => rfl⟩
  · rename_i own
    refine ⟨?_, fun other => absurd other own⟩
    split
    · split <;> simp
    · simp

/-- A signal comes to nothing if its sender could only be heard in ways that come to nothing. -/
theorem hearInCall_eq_self {call : Call ε}
    (own : signal.sender = call.localUser → phone.hearOwnDevice call signal.message = phone)
    (remote : signal.sender ≠ call.localUser → signal.sender = call.remoteUser →
      isForeignParty call signal.message = false →
      phone.hearRemote call signal.message = phone) :
    phone.hearInCall call membership signal = phone := by
  unfold hearInCall
  split
  · rfl
  · split
    · rfl
    · rename_i origin
      exact own (sender_of_own origin (by simp))
    · rename_i origin
      split
      · rfl
      · rename_i listened
        simp only [ne_eq, Bool.or_eq_true, decide_eq_true_eq, not_or, Decidable.not_not,
          Bool.not_eq_true] at listened
        exact remote (origin_eq_remote_iff.mp origin) listened.1 listened.2

theorem hearInCall_of_foreign {call : Call ε}
    (foreign : call.Foreign phone.phase membership signal) :
    phone.hearInCall call membership signal = phone := by
  cases foreign with
  | otherCall other => exact if_pos (by simp [other.symm])
  | otherRoom other => exact if_pos (by simp [other.symm])
  | echo own here =>
      have origin : Origin.of call.localUser (some call.party) signal.sender
          signal.message.party = .thisDevice := by
        cases party : signal.message.party with
        | none => simp [Origin.of, own]
        | some named => simp [Origin.of, own, here named party]
      simp [hearInCall, origin]
  | ownDevice own named elsewhere stays unanswered =>
      apply hearInCall_eq_self
      · intro _
        cases message : signal.message with
        | hangup content => simp [message, isHangup] at stays
        | answer answer => simp [hearOwnDevice, unanswered answer message]
        | invite | candidates | negotiate => rfl
      · intro notOurs
        exact absurd own notOurs
  | stranger notOurs notTheirs =>
      apply hearInCall_eq_self
      · intro own
        exact absurd own notOurs
      · intro _ theirs
        exact absurd theirs notTheirs
  | otherParty notOurs bound named other stays =>
      apply hearInCall_eq_self
      · intro own
        exact absurd own notOurs
      · intro _ _ admitted
        simp [isForeignParty, bound, named, stays, other.symm] at admitted
  | invite message =>
      apply hearInCall_eq_self
      · intro _
        simp [message, hearOwnDevice]
      · intro _ _ _
        simp [message, hearRemote]
  | answer notOurs message late =>
      apply hearInCall_eq_self
      · intro own
        exact absurd own notOurs
      · intro _ _ _
        rw [message]
        exact if_pos (by simpa using late)
  | negotiate message early =>
      apply hearInCall_eq_self
      · intro _
        simp [message, hearOwnDevice]
      · intro _ _ _
        rw [message, hearRemote, hearNegotiate]
        split
        · rename_i active _
          exact absurd active early
        · rfl

theorem hear_of_unrung (idle : phone.call = none) (unrung : ¬phone.RingsFor now membership signal) :
    phone.hear now membership signal = phone := by
  unfold hear
  rw [idle]
  dsimp only
  split
  · rename_i invite message
    refine if_pos (Classical.byContradiction fun rings => unrung ?_)
    simp only [Bool.or_eq_true, decide_eq_true_eq, not_or, Bool.not_eq_true] at rings
    exact ⟨invite, message, rings.1, (isStale_eq_false_iff _ _).mp rings.2⟩
  · rfl

theorem hear_of_foreign
    (aside : ∀ call, phone.call = some call → call.Foreign phone.phase membership signal)
    (unrung : phone.call = none → ¬phone.RingsFor now membership signal) :
    phone.hear now membership signal = phone := by
  cases current : phone.call with
  | none => exact hear_of_unrung current (unrung current)
  | some call =>
      unfold hear
      rw [current]
      exact hearInCall_of_foreign (aside call current)

/-- A signal is heard the same way whether it comes by itself or in an event. -/
theorem handle_of_signal {occurrence : Occurrence}
    (signalled : occurrence.signal? = some (membership, signal)) :
    phone.handle now occurrence = (phone.hear now membership signal, .ok .done) := by
  cases occurrence with
  | event room carrier =>
      simp only [Occurrence.signal?] at signalled
      cases carried : Signal.ofEvent carrier with
      | ok read =>
          simp only [carried, Except.toOption, Option.map_some, Option.some.injEq,
            Prod.mk.injEq] at signalled
          rcases signalled with ⟨rfl, rfl⟩
          simp [handle, hearEvent, carried]
      | error => simp [carried, Except.toOption] at signalled
  | signal room content =>
      simp only [Occurrence.signal?, Option.some.injEq, Prod.mk.injEq] at signalled
      rcases signalled with ⟨rfl, rfl⟩
      rfl
  | _ => simp [Occurrence.signal?] at signalled

/-- What is heard from the other side of a call is judged by its party and then taken up. -/
theorem after_of_heard {call : Call ε} {occurrence : Occurrence} {message : Message}
    (coherent : phone.Coherent) (current : phone.call = some call)
    (heard : call.heard? occurrence = some message) (now : Instant) :
    phone.after now occurrence =
      if isForeignParty call message then phone else phone.hearRemote call message := by
  unfold Call.heard? at heard
  split at heard
  · rename_i membership signal signalled
    split at heard
    · rename_i addressed
      rcases addressed with ⟨named, room, sender⟩
      rw [Option.some.injEq] at heard
      subst heard
      have apart : signal.sender ≠ call.localUser := sender ▸ coherent.apart current
      have remote : Origin.of call.localUser (some call.party) signal.sender
          signal.message.party = .remote :=
        origin_eq_remote_iff.mpr apart
      unfold Phone.after
      rw [handle_of_signal signalled]
      simp only [hear, current, hearInCall, remote]
      simp [named, room, sender]
    · cases heard
  · cases heard

/-- A phone that hears something foreign is the same phone, and there is nothing to reply. -/
theorem handle_of_foreign {occurrence : Occurrence} (foreign : phone.Foreign now occurrence) :
    phone.handle now occurrence = (phone, .ok .done) := by
  cases foreign with
  | unreadable unread => simp [handle, hearEvent, unread]
  | unheard signalled aside unrung =>
      rw [handle_of_signal signalled, hear_of_foreign aside unrung]
  | @stale session callback other =>
      have dropped : phone.hearEngine session callback = phone := by
        unfold hearEngine
        split
        · rename_i negotiation _ opened
          exact if_neg (other negotiation opened)
        · rfl
      simp [handle, dropped]

/-! ## Runs with insertions -/

/-- What the owner of a phone does with it: it passes on what happens, or takes the log. -/
inductive Action where
  | passes (now : Instant) (occurrence : Occurrence)
  | takesLog

/-- What the owner gets for an action: the reply, or the entries of the log. -/
inductive Outcome where
  | replied (reply : Except PhoneError Reply)
  | took (entries : List LogEntry)

/-- The phone after an action, and what its owner gets. -/
def act (phone : Phone ε) : Action → Phone ε × Outcome
  | .passes now occurrence =>
      ((phone.handle now occurrence).1, .replied (phone.handle now occurrence).2)
  | .takesLog => (phone.takeLog.1, .took phone.takeLog.2)

/-- What comes of each action of a run whose actions are marked if they were inserted. -/
def replay (phone : Phone ε) : List (Action × Bool) → List ((Phone ε × Outcome) × Bool)
  | [] => []
  | (action, inserted) :: later =>
      (phone.act action, inserted) :: (phone.act action).1.replay later

/-- The phone at the end of a run whose actions are marked. -/
def endOf (phone : Phone ε) (actions : List (Action × Bool)) : Phone ε :=
  actions.foldl (fun current entry => (current.act entry.1).1) phone

/-- Everything that was inserted into a run is foreign to the phone that it happens to. -/
inductive ForeignInsertions : Phone ε → List (Action × Bool) → Prop where
  | nil {phone : Phone ε} : ForeignInsertions phone []
  | kept {phone : Phone ε} {action : Action} {later : List (Action × Bool)}
      (rest : ForeignInsertions (phone.act action).1 later) :
      ForeignInsertions phone ((action, false) :: later)
  | inserted {phone : Phone ε} {now : Instant} {occurrence : Occurrence}
      {later : List (Action × Bool)} (foreign : phone.Foreign now occurrence)
      (rest : ForeignInsertions (phone.after now occurrence) later) :
      ForeignInsertions phone ((.passes now occurrence, true) :: later)

theorem act_of_foreign {occurrence : Occurrence} (foreign : phone.Foreign now occurrence) :
    phone.act (.passes now occurrence) = (phone, .replied (.ok .done)) := by
  simp [act, handle_of_foreign foreign]

/-- A run with foreign occurrences inserted at any points: every action of the original run gets
what it got without the insertions and leaves the same phone, and so does the run as a whole. -/
theorem replay_of_foreignInsertions {actions : List (Action × Bool)}
    (foreign : phone.ForeignInsertions actions) :
    (phone.replay actions).filter (fun entry => !entry.2) =
        phone.replay (actions.filter fun entry => !entry.2) ∧
      phone.endOf actions = phone.endOf (actions.filter fun entry => !entry.2) := by
  induction foreign with
  | nil => exact ⟨rfl, rfl⟩
  | kept rest ih => exact ⟨congrArg (List.cons _) ih.1, ih.2⟩
  | @inserted phone now occurrence later foreign rest ih =>
      have same : (phone.act (.passes now occurrence)).1 = phone := by
        rw [act_of_foreign foreign]
      have unchanged : phone.after now occurrence = phone := same
      rw [unchanged] at ih
      refine ⟨?_, ?_⟩
      · simpa [replay, same] using ih.1
      · simpa [endOf, same] using ih.2

/-- A call that goes out while a hangup is heard that is for no call, an event that cannot be read,
a callback of no negotiation, a stranger, and an answer of another device of the caller. -/
def disturbedRun : List (Action × Bool) :=
  let call := CallId.fresh 0 "0"
  [(.passes 0 (.signal pair ⟨⟨"@bob"⟩, 0, .hangup ⟨call, none, none⟩⟩), true),
    (.passes 0 (.startCall pair), false),
    (.passes 1 (.event pair ⟨⟨"$1"⟩, "m.room.message", ⟨"@bob"⟩, 0, .null⟩), true),
    (.passes 1 (.relayRefreshed (.error "none")), false),
    (.passes 2 (.callback 7 .gatheringComplete), true),
    (.takesLog, false),
    (.passes 3 (.signal pair ⟨⟨"@carol"⟩, 0, .hangup ⟨call, none, none⟩⟩), true),
    (.passes 3 (.signal pair ⟨⟨"@alice"⟩, 0, .answer ⟨call, some ⟨"desk"⟩, "answer", []⟩⟩), true),
    (.passes 4 (.callback 1 (.localDescription "offer" .offer)), false),
    (.passes 5 (.callback 1 .gatheringComplete), false)]

theorem foreignInsertions_disturbedRun : scripted.ForeignInsertions disturbedRun := by
  refine .inserted (.unheard rfl (by simp [scripted]) ?_) (.kept (.inserted (.unreadable rfl)
    (.kept (.inserted (.stale ?_) (.kept (.inserted (.unheard rfl ?_ ?_)
      (.inserted (.unheard rfl ?_ ?_) (.kept (.kept .nil)))))))))
  · rintro - ⟨invite, message, -⟩
    exact Message.noConfusion message
  · rintro negotiation ⟨⟩
    decide
  · rintro call ⟨⟩
    exact .stranger (by decide) (by decide)
  · rintro ⟨⟩
  · rintro call ⟨⟩
    exact .ownDevice (by decide) rfl (by decide) rfl (fun _ _ => by decide)
  · rintro ⟨⟩

theorem replay_disturbedRun :
    (scripted.replay disturbedRun).filter (fun entry => !entry.2) =
        scripted.replay (disturbedRun.filter fun entry => !entry.2) ∧
      scripted.endOf disturbedRun = scripted.endOf (disturbedRun.filter fun entry => !entry.2) ∧
      (scripted.endOf disturbedRun).phase = .outgoing ∧
      (disturbedRun.filter Prod.snd).length = 5 :=
  have unnoticed := replay_of_foreignInsertions foreignInsertions_disturbedRun
  ⟨unnoticed.1, unnoticed.2, by decide, rfl⟩

end Phone

end RoomCall
