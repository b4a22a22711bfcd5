import RoomCall.Proofs.Phone.Reached
import RoomCall.Proofs.Phone.Viability

/-!
# The calls of a phone, from the first one on

`Phone.Reached` follows the current call alone. Here a phone is followed from the moment it was
made: a chronicle keeps everything that the phone has written, and splits it into the calls that it
has opened. A call is opened when the user is told so, by the reply to a start or because it rings;
what is written from then on belongs to it until the next call is opened. A call that ends in the
very step in which it was opened has its place in the chronicle like any other.
-/

namespace RoomCall

variable {ε : Type}

/-- A call that a phone has opened, and what was written since then, up to the next call. -/
structure CallRecord where
  call : CallId
  room : RoomId
  /-- The party that this device is in the call. -/
  party : PartyId
  /-- The side of this device: it offers a call that it starts and answers one that rings. -/
  side : Role
  /-- How long the invite of the call is valid. -/
  lifetime : Duration
  entries : List LogEntry := []

/-- The record with some more entries. -/
def CallRecord.grow (record : CallRecord) (entries : List LogEntry) : CallRecord :=
  { record with entries := record.entries ++ entries }

@[simp]
theorem CallRecord.grow_side (record : CallRecord) (entries : List LogEntry) :
    (record.grow entries).side = record.side := rfl

@[simp]
theorem CallRecord.grow_entries (record : CallRecord) (entries : List LogEntry) :
    (record.grow entries).entries = record.entries ++ entries := rfl

@[simp]
theorem CallRecord.grow_nil (record : CallRecord) : record.grow [] = record := by
  simp [grow]

@[simp]
theorem CallRecord.grow_grow (record : CallRecord) (first second : List LogEntry) :
    (record.grow first).grow second = record.grow (first ++ second) := by
  simp [grow]

/-- The calls that ring among some entries. -/
def LogEntry.rings (entries : List LogEntry) : List CallId :=
  entries.filterMap fun entry =>
    match entry with
    | .announcement (.incomingCall _ _ _ call) => some call
    | _ => none

@[simp]
theorem LogEntry.rings_append (first second : List LogEntry) :
    rings (first ++ second) = rings first ++ rings second :=
  List.filterMap_append

namespace Phone

/-- The record of a call that is started in a room. -/
def dialedRecord (phone : Phone ε) (membership : Membership) (call : CallId) : CallRecord where
  call := call
  room := membership.room
  party := ⟨phone.partyNames.draw.1⟩
  side := .offering
  lifetime := phone.inviteLifetime

/-- The record of a call that rings for an invite. -/
def rungRecord (phone : Phone ε) (membership : Membership) (invite : Invite) : CallRecord where
  call := invite.call
  room := membership.room
  party := ⟨phone.partyNames.draw.1⟩
  side := .answering
  lifetime := invite.lifetime

variable [MediaEngine ε]

/-- The call that the reply to an occurrence says was started. -/
def started? (phone : Phone ε) (now : Instant) (occurrence : Occurrence) : Option CallId :=
  match (phone.handle now occurrence).2 with
  | .ok (.started call) => some call
  | _ => none

/-- The call that an occurrence starts, as the reply says. -/
def dialedRecord? (phone : Phone ε) (now : Instant) (occurrence : Occurrence) : Option CallRecord :=
  match occurrence with
  | .startCall membership =>
      (phone.started? now occurrence).map fun call => phone.dialedRecord membership call
  | _ => none

/-- The call that rings for the invite that an occurrence brings, as the user is told. -/
def rungRecord? (phone : Phone ε) (now : Instant) (occurrence : Occurrence) : Option CallRecord :=
  match occurrence.signal? with
  | some (membership, ⟨_, _, .invite invite⟩) =>
      if invite.call ∈ LogEntry.rings (written phone (phone.after now occurrence)) then
        some (phone.rungRecord membership invite)
      else
        none
  | _ => none

/-- The call that an occurrence opens. -/
def opened (phone : Phone ε) (now : Instant) (occurrence : Occurrence) : Option CallRecord :=
  phone.dialedRecord? now occurrence <|> phone.rungRecord? now occurrence

end Phone

/-- What a phone has written and told since it was made. -/
structure Chronicle where
  entries : List LogEntry := []
  /-- The calls that were started, as the replies said. -/
  started : List CallId := []
  /-- The calls before the latest one, in the order in which they were opened. -/
  past : List CallRecord := []
  /-- The call that was opened last, whether or not it is over. -/
  latest : Option CallRecord := none

namespace Chronicle

/-- All calls, in the order in which they were opened. -/
def calls (chronicle : Chronicle) : List CallRecord :=
  chronicle.past ++ chronicle.latest.toList

variable [MediaEngine ε]

/-- The chronicle after something has happened. -/
def next (chronicle : Chronicle) (phone : Phone ε) (now : Instant) (occurrence : Occurrence) :
    Chronicle :=
  let entries := Phone.written phone (phone.after now occurrence)
  let told := { chronicle with
    entries := chronicle.entries ++ entries
    started := chronicle.started ++ (phone.started? now occurrence).toList }
  match phone.opened now occurrence with
  | some record => { told with past := chronicle.calls, latest := some (record.grow entries) }
  | none => { told with latest := chronicle.latest.map fun record => record.grow entries }

end Chronicle

namespace Phone

variable [MediaEngine ε] {phone : Phone ε} {chronicle : Chronicle}

/-- A phone that came about from a new one, with its chronicle. The owner may take entries off the
log at any time. -/
inductive Lived : Phone ε → Chronicle → Prop where
  | new {phone : Phone ε} (new : phone.IsNew) : Lived phone {}
  | after {phone : Phone ε} {chronicle : Chronicle} (lived : Lived phone chronicle) (now : Instant)
      (occurrence : Occurrence) :
      Lived (phone.after now occurrence) (chronicle.next phone now occurrence)
  | read {phone : Phone ε} {chronicle : Chronicle} (lived : Lived phone chronicle)
      (rest : List LogEntry) : Lived { phone with log := rest } chronicle

/-- A user of an idle phone with all capabilities starts a call in a room with a callee. -/
theorem started?_startCall {now : Instant} {membership : Membership} {callee : UserId}
    (idle : phone.phase = .idle) (known : callee? membership = some callee)
    (capable : phone.missing = []) :
    phone.started? now (.startCall membership) =
      some (phone.dialedCall now membership callee).id := by
  simp [started?, handle, startCall, idle, known, capable, Except.map, dialedCall]

/-- Only a start is replied to with the name of a call, on an idle phone that lacks nothing. -/
theorem startable_of_started? {now : Instant} {occurrence : Occurrence} {call : CallId}
    (started : phone.started? now occurrence = some call) :
    ∃ membership callee, occurrence = .startCall membership ∧ phone.phase = .idle ∧
      callee? membership = some callee ∧ phone.missing = [] := by
  unfold started? handle at started
  cases occurrence with
  | startCall membership =>
      unfold startCall at started
      by_cases idle : phone.phase = .idle
      · cases known : callee? membership with
        | none => simp [idle, known, Except.map] at started
        | some callee =>
            by_cases capable : phone.missing = []
            · exact ⟨membership, callee, rfl, idle, known, capable⟩
            · simp [idle, known, capable, Except.map] at started
      · simp [idle, Except.map] at started
  | accept => cases outcome : (phone.accept now).2 <;> simp [outcome, Except.map] at started
  | ignore => cases outcome : phone.ignore.2 <;> simp [outcome, Except.map] at started
  | setMuted muted =>
      cases outcome : (phone.setMuted muted).2 <;> simp [outcome, Except.map] at started
  | toggleCamera => cases outcome : phone.toggleCamera.2 <;> simp [outcome, Except.map] at started
  | event | signal | hangUp | relayRefreshed | inviteExpired | callback | plug => simp at started

/-- A phone that has lived is coherent. -/
theorem coherent_of_lived (lived : phone.Lived chronicle) : phone.Coherent := by
  induction lived with
  | new new => exact .of_idle new.call new.phase new.roster
  | after lived now occurrence coherent =>
      exact coherent_of_move (move_after coherent now occurrence) coherent
  | read lived rest coherent => exact coherent.withLog rest

/-- The call of a phone that has lived can go on. -/
theorem viable_of_lived (lived : phone.Lived chronicle) : phone.Viable := by
  induction lived with
  | new new => exact viable_of_idle new.call
  | after lived now occurrence viable =>
      have coherent := coherent_of_lived lived
      exact viable_of_move (move_after coherent now occurrence) coherent viable
  | read lived rest viable => exact viable

/-- A phone with its chronicle, after a run. -/
def chronicled (start : Phone ε × Chronicle) (occurrences : List (Instant × Occurrence)) :
    Phone ε × Chronicle :=
  occurrences.foldl
    (fun state entry =>
      (state.1.after entry.1 entry.2, state.2.next state.1 entry.1 entry.2))
    start

/-- A phone that has lived goes on to live. -/
theorem lived_chronicled (lived : phone.Lived chronicle)
    (occurrences : List (Instant × Occurrence)) :
    Lived (chronicled (phone, chronicle) occurrences).1
      (chronicled (phone, chronicle) occurrences).2 := by
  induction occurrences generalizing phone chronicle with
  | nil => exact lived
  | cons entry later ih => exact ih (lived.after entry.1 entry.2)

/-- A chronicle is kept beside a run and does not change it. -/
theorem chronicled_fst (chronicle : Chronicle) (run : List (Instant × Occurrence)) :
    (chronicled (phone, chronicle) run).1 = phone.run run := by
  induction run generalizing phone chronicle with
  | nil => rfl
  | cons entry later ih => exact ih _

/-- Every run of a new phone has a chronicle. -/
theorem lived_run (new : phone.IsNew) (run : List (Instant × Occurrence)) :
    ∃ chronicle, (phone.run run).Lived chronicle := by
  rw [← chronicled_fst {} run]
  exact ⟨_, lived_chronicled (.new new) run⟩

theorem run_concat (run : List (Instant × Occurrence)) (now : Instant) (occurrence : Occurrence) :
    phone.run (run ++ [(now, occurrence)]) = (phone.run run).after now occurrence := by
  simp [Phone.run]

end Phone

end RoomCall
