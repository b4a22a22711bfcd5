import RoomCall.Engine.Scripted
import RoomCall.Proofs.Phone.Coherence

/-!
# Reachable phones

A phone is reached from a new one by occurrences, in any order and at any instants, while its owner
reads its log. Besides the phone we follow the history of the current call: what has happened since
the phone last had no call, and the entries that were written since then.
-/

namespace RoomCall

variable {ε : Type}

/-- Whether an entry sends the description that a call is set up with. -/
def LogEntry.describes : LogEntry → Bool
  | .errand (.send _ signal) => signal.kind = .invite || signal.kind = .answer
  | _ => false

namespace Phone

variable {phone : Phone ε}

/-- A phone as it is made. -/
structure IsNew (phone : Phone ε) : Prop where
  phase : phone.phase = .idle
  call : phone.call = none
  roster : phone.roster = []
  relay : phone.relay = {}
  refreshing : phone.refreshing = false
  session : phone.nextSession = 1
  log : phone.log = []

/-- What happened to a phone since it last had no call, and what it wrote. -/
structure History where
  occurrences : List Occurrence := []
  entries : List LogEntry := []

/-- The entries that were written between two states of a phone. -/
def written (before after : Phone ε) : List LogEntry :=
  after.log.drop before.log.length

theorem written_eq {after : Phone ε} {entries : List LogEntry}
    (log : after.log = phone.log ++ entries) : written phone after = entries := by
  simp [written, log]

/-- Whether the local description of the current call was reported. -/
def hasReported (phone : Phone ε) : Bool :=
  phone.negotiation?.any Negotiation.described

variable [MediaEngine ε]

/-- The history after something has happened. -/
def History.next (history : History) (before after : Phone ε) (occurrence : Occurrence) : History :=
  if after.call.isNone then
    {}
  else
    { occurrences := history.occurrences ++ [occurrence]
      entries := history.entries ++ written before after }

/-- A phone that can be reached from a new one, with the history of its current call. -/
inductive Reached : Phone ε → History → Prop where
  | new {phone : Phone ε} (new : phone.IsNew) : Reached phone {}
  /-- Something happens. -/
  | after {phone : Phone ε} {history : History} (reached : Reached phone history)
      (now : Instant) (occurrence : Occurrence) :
      Reached (phone.after now occurrence)
        (history.next phone (phone.after now occurrence) occurrence)
  /-- The owner takes entries off the log. -/
  | read {phone : Phone ε} {history : History} (reached : Reached phone history)
      (rest : List LogEntry) : Reached { phone with log := rest } history

/-- A phone with the history of its call, after a run. -/
def follow (start : Phone ε × History) (occurrences : List (Instant × Occurrence)) :
    Phone ε × History :=
  occurrences.foldl
    (fun state entry =>
      (state.1.after entry.1 entry.2, state.2.next state.1 (state.1.after entry.1 entry.2) entry.2))
    start

/-- What can be reached goes on to be reached. -/
theorem reached_follow {history : History} (reached : phone.Reached history)
    (occurrences : List (Instant × Occurrence)) :
    Reached (follow (phone, history) occurrences).1 (follow (phone, history) occurrences).2 := by
  induction occurrences generalizing phone history with
  | nil => exact reached
  | cons entry later ih => exact ih (reached.after entry.1 entry.2)

/-- Every phone that can be reached is coherent. -/
theorem coherent_of_reached {history : History} (reached : phone.Reached history) :
    phone.Coherent := by
  induction reached with
  | new new => exact .of_idle new.call new.phase new.roster
  | after reached now occurrence coherent =>
      exact coherent_of_move (move_after coherent now occurrence) coherent
  | read reached rest coherent =>
      exact ⟨coherent.idle, coherent.stands, coherent.apart, coherent.collected, coherent.nodup,
        coherent.listed⟩

end Phone

/-! ## Entries that carry no description -/

namespace LogEntry

@[simp]
theorem any_describes_traffic (session : SessionId) (contents : List Traffic) :
    (contents.map (LogEntry.traffic session)).any describes = false := by
  simp [describes]

@[simp]
theorem any_describes_stageEntries (notices : List Notice) :
    (stageEntries notices).any describes = false :=
  List.any_eq_false.mpr (forall_mem_stageEntries (fun _ => Bool.false_ne_true) _)

@[simp]
theorem any_describes_phaseEntries (before after : Phase) :
    (phaseEntries before after).any describes = false :=
  List.any_eq_false.mpr (forall_mem_phaseEntries (fun _ => Bool.false_ne_true) _ _)

@[simp]
theorem any_describes_rosterEntries (before after : Roster) :
    (rosterEntries before after).any describes = false :=
  List.any_eq_false.mpr (forall_mem_rosterEntries Bool.false_ne_true _ _)

end LogEntry

namespace Phone

variable {phone after : Phone ε} {call : Call ε}

/-- A step keeps account of the local description: if it was reported before, or was just sent,
it counts as reported afterwards as long as there is a call. -/
def Accounts (phone after : Phone ε) : Prop :=
  after.call.isSome = true →
    (phone.hasReported = true ∨ (written phone after).any LogEntry.describes = true) →
    after.hasReported = true

theorem accounts_quiet (entries : List LogEntry) (log : after.log = phone.log ++ entries)
    (silent : entries.any LogEntry.describes = false)
    (kept : phone.hasReported = true → after.hasReported = true) : phone.Accounts after := by
  rintro - (reported | sent)
  · exact kept reported
  · rw [written_eq log, silent] at sent
    simp at sent

theorem accounts_ended (gone : after.call = none) : phone.Accounts after := by
  intro current
  simp [gone] at current

theorem hasReported_eq_false (unopened : phone.negotiation? = none) :
    phone.hasReported = false := by
  simp [hasReported, unopened]

theorem negotiation?_eq (current : phone.call = some call) :
    phone.negotiation? = call.negotiation := by
  simp [negotiation?, current]

theorem progress_of_call {negotiation : Negotiation ε} (current : phone.call = some call)
    (opened : call.negotiation = some negotiation) : phone.progress = negotiation.progress := by
  simp [progress, negotiation?, current, opened]

/-- An operation on the negotiation that reports nothing and is followed by no description. -/
theorem accounts_keep_noted {negotiation asked : Negotiation ε} (entries : List LogEntry)
    (current : phone.call = some call) (opened : call.negotiation = some negotiation)
    (same : asked.described = negotiation.described)
    (silent : entries.any LogEntry.describes = false) :
    phone.Accounts ((phone.keep call asked).noted entries) := by
  refine accounts_quiet
    (asked.traffic.map (LogEntry.traffic asked.id) ++ entries) ?_ ?_ ?_
  · simp [noted, keep_eq]
  · rw [List.any_append, LogEntry.any_describes_traffic, silent]
    rfl
  · intro reported
    rw [hasReported, negotiation?_eq current, opened] at reported
    simpa [hasReported, negotiation?, noted, keep_eq, Call.keeping, same] using reported

theorem accounts_keep {negotiation asked : Negotiation ε} (current : phone.call = some call)
    (opened : call.negotiation = some negotiation)
    (same : asked.described = negotiation.described) : phone.Accounts (phone.keep call asked) := by
  have kept := accounts_keep_noted [] current opened same rfl
  rwa [noted_nil] at kept

variable [MediaEngine ε]

theorem accounts_of_opens {side : Role} {before : Phone ε} (entries : List LogEntry)
    (opens : phone.Opens call side after) (log : phone.log = before.log ++ entries)
    (silent : entries.any LogEntry.describes = false) (unopened : before.negotiation? = none) :
    before.Accounts after := by
  cases opens with
  | refused => exact accounts_ended rfl
  | @opened negotiation opened id =>
      refine accounts_quiet (entries ++ negotiation.traffic.map
        (LogEntry.traffic negotiation.id) ++
          stageEntries (Negotiation.openingStages.map .progressChanged)) ?_ ?_ ?_
      · simp [noted, keep_eq, log]
      · simp only [List.any_append, silent, LogEntry.any_describes_traffic,
          LogEntry.any_describes_stageEntries, Bool.or_self]
      · simp [hasReported_eq_false unopened]

theorem accounts_of_starts {side : Role} {before : Phone ε} (entries : List LogEntry)
    (starts : phone.Starts call side after) (log : phone.log = before.log ++ entries)
    (silent : entries.any LogEntry.describes = false) (unopened : before.negotiation? = none) :
    before.Accounts after := by
  cases starts with
  | opens opens => exact accounts_of_opens entries opens log silent unopened
  | waits =>
      refine accounts_quiet (entries ++
        if phone.refreshing then [] else [.errand .refreshRelay]) ?_ ?_ ?_
      · simp [log]
      · rw [List.any_append, silent]
        split <;> rfl
      · simp [hasReported_eq_false unopened]

theorem accounts_of_settles (other : Call ε) (current : phone.call = some call)
    (same : other.negotiation = call.negotiation)
    (settles : Settles { phone with call := some other } other after) : phone.Accounts after := by
  cases settles with
  | refused => exact accounts_ended rfl
  | waits =>
      refine accounts_quiet [] (List.append_nil _).symm rfl ?_
      intro reported
      rwa [hasReported, negotiation?_eq current, ← same] at reported
  | @applied answer negotiation answered opened sent ready =>
      refine accounts_quiet (((negotiation.applyRemote answer .answer
        other.remoteUser).1.addRemoteCandidates (other.heldCandidates.map Prod.snd)).traffic.map
          (LogEntry.traffic negotiation.id) ++
            LogEntry.errand .cancelTimer :: phaseEntries phone.phase .active) ?_ ?_ ?_
      · simp [noted, keep_eq]
      · rw [List.any_append, LogEntry.any_describes_traffic, List.any_cons,
          LogEntry.any_describes_phaseEntries]
        rfl
      · intro reported
        rw [hasReported, negotiation?_eq current, ← same, opened] at reported
        exact (Negotiation.described_addRemoteCandidates _).trans reported

theorem accounts_of_reacts {before handled : Negotiation ε} {side : Role}
    (reacts : phone.Reacts call side before handled after) (current : phone.call = some call)
    (opened : call.negotiation = some before) : phone.Accounts after := by
  cases reacts with
  | broken | lost | reportedLost => exact accounts_ended rfl
  | moved runs same =>
      exact accounts_keep_noted _ current opened same (LogEntry.any_describes_stageEntries _)
  | renegotiated runs described same still =>
      rw [sendNegotiate_eq]
      exact accounts_keep_noted _ current opened same rfl
  | watched runs same still =>
      rw [setRoster_eq]
      exact accounts_keep_noted _ current opened same (LogEntry.any_describes_rosterEntries _ _)
  | reported runs silent described walk =>
      rintro - -
      exact described

/-- Every move keeps account of the local description. -/
theorem accounts_of_move {now : Instant} {occurrence : Occurrence}
    (move : phone.Move now occurrence after) (coherent : phone.Coherent) : phone.Accounts after := by
  have unread {same : Phone ε} (log : same.log = phone.log) (call : same.call = phone.call) :
      phone.Accounts same := by
    refine accounts_quiet [] (by simp [log]) rfl ?_
    simp [hasReported, negotiation?, call]
  cases move with
  | still => exact unread rfl rfl
  | plugged => exact unread rfl rfl
  | refreshed => exact unread rfl rfl
  | @resumed outcome call side after is current deferred opens =>
      refine accounts_of_opens [] opens (List.append_nil _).symm rfl ?_
      rw [negotiation?_eq current]
      exact unopened_of_deferred coherent current deferred
  | @rang membership signal invite idle =>
      refine accounts_quiet (phaseEntries phone.phase .incoming ++
        [.errand (.armTimer invite.call invite.lifetime),
          .announcement (.incomingCall signal.sender membership.room invite.lifetime invite.call)] ++
        if phone.relay.isFresh now || phone.refreshing then [] else [.errand .refreshRelay]) ?_ ?_ ?_
      · simp [ringing]
      · rw [List.any_append, List.any_append, LogEntry.any_describes_phaseEntries]
        split <;> rfl
      · rw [hasReported_eq_false (by simp [negotiation?, idle])]
        simp
  | @dialed membership callee after is idle known capable starts =>
      exact accounts_of_starts _ starts rfl (LogEntry.any_describes_phaseEntries _ _)
        (by simp [negotiation?, idle])
  | @accepted call after is current incoming unaccepted compatible starts =>
      refine accounts_of_starts _ starts rfl rfl ?_
      rw [negotiation?_eq current]
      exact (rings_of_unaccepted coherent current incoming unaccepted).1
  | ended => exact accounts_ended rfl
  | @held call batch current heard admits incoming unopened =>
      refine accounts_quiet [] (List.append_nil _).symm rfl ?_
      rw [hasReported_eq_false ((negotiation?_eq current).trans unopened)]
      simp
  | @gathered call batch after current heard admits outgoing settles =>
      exact accounts_of_settles (call.holding batch) current rfl settles
  | @answered call answer after current heard admits outgoing unanswered settles =>
      refine accounts_of_settles (call.answeredBy answer) current ?_ settles
      unfold Call.answeredBy
      cases answer.party <;> rfl
  | handed current opened =>
      exact accounts_keep current opened (Negotiation.described_addRemoteCandidates _)
  | renegotiated current opened =>
      exact accounts_keep current opened (Negotiation.described_renegotiate _ _ _)
  | muted is current opened =>
      refine accounts_keep_noted _ current opened (Negotiation.described_setMuted _) ?_
      split <;> rfl
  | toggled is current opened =>
      exact accounts_keep current opened Negotiation.described_toggleCamera
  | reacted is current opened runs reacts => exact accounts_of_reacts reacts current opened

/-- A description that was sent during the current call was reported by its negotiation. -/
theorem hasReported_of_reached {history : History} (reached : phone.Reached history) :
    history.entries.any LogEntry.describes = true → phone.hasReported = true := by
  induction reached with
  | new => simp
  | @after phone history reached now occurrence ih =>
      intro sent
      have accounts := accounts_of_move
        (move_after (coherent_of_reached reached) now occurrence) (coherent_of_reached reached)
      unfold History.next at sent
      split at sent
      · simp at sent
      · rename_i current
        rw [Option.isNone_iff_eq_none, ← ne_eq, ← Option.isSome_iff_ne_none] at current
        apply accounts current
        rw [List.any_append, Bool.or_eq_true] at sent
        exact sent.imp_left ih
  | read reached rest ih => exact ih

/-- In every state that a phone can reach its fields agree, and once the description of the current
call has been sent, everybody in the room is on the roster. -/
theorem coherent_and_listed_of_reached {history : History} (reached : phone.Reached history) :
    phone.Coherent ∧
      ∀ call, phone.call = some call → history.entries.any LogEntry.describes = true →
        ∀ member ∈ call.members, member ∈ phone.roster.users := by
  have coherent := coherent_of_reached reached
  refine ⟨coherent, ?_⟩
  intro call current sent
  have reported := hasReported_of_reached reached sent
  rw [hasReported, negotiation?_eq current, Option.any_eq_true] at reported
  rcases reported with ⟨negotiation, opened, described⟩
  exact coherent.listed current opened described

/-- A new phone with a scripted engine. -/
def scripted : Phone Engine.Scripted where
  settings := { requireMicrophone := false }
  maker := { make := fun _ => {} }
  callTokens := { text := toString }
  partyNames := { text := toString }
  streamNames := { text := toString }

theorem isNew_scripted : scripted.IsNew :=
  ⟨rfl, rfl, rfl, rfl, rfl, rfl, rfl⟩

/-- A room with two members, seen by the first of them. -/
def pair : Membership :=
  ⟨⟨"!room"⟩, ⟨"@alice"⟩, [⟨"@alice"⟩, ⟨"@bob"⟩]⟩

/-- A call that is started without relay credentials and whose invite goes out. -/
def dialedRun : List (Instant × Occurrence) :=
  [(0, .startCall pair), (1, .relayRefreshed (.error "none")),
    (2, .callback 1 (.localDescription "offer" .offer)), (3, .callback 1 .gatheringComplete)]

theorem coherent_and_listed_dialedRun :
    (follow (scripted, {}) dialedRun).1.Coherent ∧
      ∀ call, (follow (scripted, {}) dialedRun).1.call = some call →
        ∀ member ∈ call.members, member ∈ (follow (scripted, {}) dialedRun).1.roster.users := by
  have reached := coherent_and_listed_of_reached
    (reached_follow (.new isNew_scripted) dialedRun)
  have sent : (follow (scripted, {}) dialedRun).2.entries.any LogEntry.describes = true := by decide
  exact ⟨reached.1, fun call current => reached.2 call current sent⟩

end Phone

end RoomCall
