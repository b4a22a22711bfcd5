import RoomCall.Proofs.Phone.Announcements
import RoomCall.Proofs.Phone.Foreign
import RoomCall.Proofs.Phone.Waiting

/-!
# Which calls ring

A phone without a call rings for every invite of another user that is fresh, and for nothing else.
It keeps nothing of the calls that are over, so an invite that is delivered again while it is fresh
rings again; but before that each earlier call of that name has ended.
-/

namespace RoomCall

variable {ε : Type}

namespace Phone

/-- The call that an occurrence invites to: a phone that has no call hears a fresh invite of another
user. -/
def invitation? (phone : Phone ε) (now : Instant) (occurrence : Occurrence) : Option CallId :=
  match phone.call, occurrence.signal? with
  | none, some (membership, ⟨sender, sentAt, .invite invite⟩) =>
      if sender ≠ membership.localUser ∧
          max 0 (now - sentAt) ≤ phone.staleInviteAge.nanoseconds ∧
          max 0 (now - sentAt) ≤ invite.lifetime.nanoseconds then
        some invite.call
      else
        none
  | _, _ => none

theorem invitation?_eq_some_iff {phone : Phone ε} {now : Instant} {occurrence : Occurrence}
    {call : CallId} :
    phone.invitation? now occurrence = some call ↔
      phone.call = none ∧ ∃ membership signal, occurrence.signal? = some (membership, signal) ∧
        phone.RingsFor now membership signal ∧ signal.message.call = call := by
  constructor
  · intro invited
    unfold invitation? at invited
    split at invited
    · rename_i membership sender sentAt invite idle heard
      split at invited
      · rename_i fresh
        exact ⟨idle, membership, _, heard, ⟨invite, rfl, fresh⟩, Option.some.inj invited⟩
      · cases invited
    · cases invited
  · rintro ⟨idle, membership, ⟨sender, sentAt, message⟩, heard, ⟨invite, rfl, fresh⟩, rfl⟩
    simp only [invitation?, idle, heard]
    exact if_pos fresh

variable [MediaEngine ε] {phone : Phone ε} {chronicle : Chronicle} {now : Instant}
  {occurrence : Occurrence} {call : CallId}

/-- The calls that a run invites to, in order. -/
def invitations (phone : Phone ε) : List (Instant × Occurrence) → List CallId
  | [] => []
  | (now, occurrence) :: later =>
      (phone.invitation? now occurrence).toList ++ (phone.after now occurrence).invitations later

theorem after_of_invited (invited : phone.invitation? now occurrence = some call) :
    ∃ membership sender invite, invite.call = call ∧
      phone.after now occurrence = phone.ringing now membership sender invite := by
  rcases invitation?_eq_some_iff.mp invited with
    ⟨idle, membership, signal, heard, ⟨invite, message, other, fresh⟩, named⟩
  refine ⟨membership, signal.sender, invite, by rw [← named, message]; rfl, ?_⟩
  rw [← hearInvite_eq other ((isStale_eq_false_iff _ _).mpr fresh), Phone.after,
    handle_of_signal heard]
  simp [hear, idle, message]

/-- A step rings for the call that it invites to, and for no other one. -/
theorem rings_after (lived : phone.Lived chronicle) (now : Instant) (occurrence : Occurrence) :
    LogEntry.rings (written phone (phone.after now occurrence)) =
      (phone.invitation? now occurrence).toList := by
  have coherent := coherent_of_lived lived
  have move := move_after coherent now occurrence
  cases invited : phone.invitation? now occurrence with
  | some call =>
      rcases after_of_invited invited with ⟨membership, sender, invite, rfl, rang⟩
      have idle := (invitation?_eq_some_iff.mp invited).1
      rw [rang]
      exact rings_ringing (coherent.phase_idle_iff.mpr idle) now membership sender invite
  | none =>
      cases current : phone.call with
      | some going =>
          have recounts := recounts_of_lived lived
          cases latest : chronicle.latest with
          | none => simp [recounts.idle latest] at current
          | some record =>
              rcases recounts.latest record latest with ⟨situation, course, recalls⟩
              exact unrung_of_tells course
                (tells_of_move move coherent (viable_of_lived lived) current course recalls)
      | none =>
          have rests : phone.phase = .idle := coherent.phase_idle_iff.mpr current
          have silent {after : Phone ε} (log : after.log = phone.log) :
              LogEntry.rings (written phone after) = [] := by
            rw [written_eq (log.trans (List.append_nil _).symm)]
            rfl
          generalize phone.after now occurrence = after at move ⊢
          cases move with
          | still | plugged | refreshed => exact silent rfl
          | rang idle heard message other fresh =>
              have rings := invitation?_eq_some_iff.mpr ⟨idle, _, _, heard,
                ⟨_, message, other, (isStale_eq_false_iff _ _).mp fresh⟩, rfl⟩
              simp [rings] at invited
          | @dialed membership callee _ _ _ _ _ starts =>
              have tells := tells_dialing rests now membership callee
              exact rings_of_tells (tells_of_starts starts tells rfl rfl)
          | resumed _ there | accepted _ there | ended there | held there | gathered there
            | handed there | answered there | renegotiated there | muted _ there
            | toggled _ there | reacted _ there => simp [current] at there

theorem rings_run (lived : phone.Lived chronicle) (run : List (Instant × Occurrence)) :
    LogEntry.rings (chronicled (phone, chronicle) run).2.entries =
      LogEntry.rings chronicle.entries ++ phone.invitations run := by
  induction run generalizing phone chronicle with
  | nil => exact (List.append_nil _).symm
  | cons entry later ih =>
      calc LogEntry.rings (chronicled (phone, chronicle) (entry :: later)).2.entries
        _ = LogEntry.rings (chronicle.next phone entry.1 entry.2).entries ++
              (phone.after entry.1 entry.2).invitations later := ih (lived.after entry.1 entry.2)
        _ = LogEntry.rings chronicle.entries ++ phone.invitations (entry :: later) := by
          rw [entries_next, LogEntry.rings_append, rings_after lived, List.append_assoc]
          rfl

/-- In every run, what rings are the calls that it invites to, in order: each time that a phone
without a call hears a fresh invite of another user, and never otherwise. Whether a call of that
name has been there before does not matter, but when it rings again, every earlier one, rung or
started, has ended. -/
theorem rings_iff_invited (lived : phone.Lived chronicle) :
    (∀ run, LogEntry.rings (chronicled (phone, chronicle) run).2.entries =
        LogEntry.rings chronicle.entries ++ phone.invitations run) ∧
      ∀ now occurrence call,
        (call ∈ LogEntry.rings (written phone (phone.after now occurrence)) ↔
          phone.call = none ∧ ∃ membership signal, occurrence.signal? = some (membership, signal) ∧
            phone.RingsFor now membership signal ∧ signal.message.call = call) ∧
        (call ∈ LogEntry.rings (written phone (phone.after now occurrence)) →
          (LogEntry.rings chronicle.entries).count call + chronicle.started.count call =
            ((LogEntry.endings chronicle.entries).map Prod.fst).count call) := by
  refine ⟨rings_run lived, fun now occurrence call => ?_⟩
  have exactly : call ∈ LogEntry.rings (written phone (phone.after now occurrence)) ↔
      phone.invitation? now occurrence = some call := by
    rw [rings_after lived, Option.mem_toList]
  refine ⟨exactly.trans invitation?_eq_some_iff, fun rings => ?_⟩
  have idle := (invitation?_eq_some_iff.mp (exactly.mp rings)).1
  simpa [idle] using (recounts_of_lived lived).count call

/-- A call that was ignored rings again for the same invite, five seconds later. -/
theorem rings_iff_invited_ignoredRun :
    LogEntry.rings (chronicled (scripted, {})
        (ignoredRun ++ [(5000000000, bobsInvite)])).2.entries = [⟨"call"⟩, ⟨"call"⟩] ∧
      (LogEntry.rings (chronicled (scripted, {}) ignoredRun).2.entries).count ⟨"call"⟩ +
          (chronicled (scripted, {}) ignoredRun).2.started.count ⟨"call"⟩ =
        ((LogEntry.endings (chronicled (scripted, {}) ignoredRun).2.entries).map Prod.fst).count
          ⟨"call"⟩ := by
  have new := rings_iff_invited (.new isNew_scripted)
  have ignored := rings_iff_invited (lived_chronicled (.new isNew_scripted) ignoredRun)
  exact ⟨(new.1 _).trans (by decide), (ignored.2 5000000000 bobsInvite ⟨"call"⟩).2 (by decide)⟩

/-- A call that is over can ring again. -/
theorem exists_run_ringsAgain :
    ∃ (run : List (Instant × Occurrence)) (now : Instant) (occurrence : Occurrence) (call : CallId),
      call ∈ (LogEntry.endings (chronicled (scripted, {}) run).2.entries).map Prod.fst ∧
      call ∈ LogEntry.rings (written (chronicled (scripted, {}) run).1
        ((chronicled (scripted, {}) run).1.after now occurrence)) :=
  ⟨ignoredRun, 5000000000, bobsInvite, ⟨"call"⟩, by decide, by decide⟩

end Phone

end RoomCall
