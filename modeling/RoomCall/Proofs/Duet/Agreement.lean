import Mathlib.Logic.Function.Basic
import RoomCall.Proofs.Duet.Hearing

/-!
# Two devices agree under every schedule

What one side has said and the other has not heard is on its way: among the events that wait at the
other device, or among the orders that wait at its own, in the order in which it was said. Together
with the stages of both devices this is kept by every step. When nothing waits any more, everything
was heard, and then both devices stand at the end.
-/

namespace RoomCall

open Engine (Scripted Script)

theorem Role.eq_or_other (role side : Role) : role = side ∨ role = side.other := by
  cases role <;> cases side <;> simp [other]

@[simp]
theorem Role.other_ne (side : Role) : side.other ≠ side := by
  cases side <;> simp [other]

@[simp]
theorem Role.other_other (side : Role) : side.other.other = side := by
  cases side <;> rfl

/-! ## Orders in a log -/

@[simp]
theorem Errand.sends_append (first second : List Errand) :
    sends (first ++ second) = sends first ++ sends second :=
  List.filterMap_append

/-- What is sent is among the orders. -/
theorem Errand.sends_errands (entries : List LogEntry) :
    sends (LogEntry.errands entries) = LogEntry.sends entries := by
  induction entries with
  | nil => rfl
  | cons entry later ih =>
      cases entry with
      | errand order =>
          cases order with
          | send room signal => exact congrArg ((room, signal) :: ·) ih
          | refreshRelay | armTimer | cancelTimer => exact ih
      | announcement | traffic => exact ih

theorem LogEntry.mem_errands {entries : List LogEntry} {order : Errand}
    (there : .errand order ∈ entries) : order ∈ errands entries :=
  List.mem_filterMap.mpr ⟨.errand order, there, rfl⟩

namespace Duet

variable {duet : Duet} {id : CallId} {side : Role}

/-! ## What a device keeps -/

/-- A device has the settings and engines of its side, and whenever its phone waits for relay
credentials, a request for them is under way or ordered. -/
structure Device.Keeps (duet : Duet) (side : Role) (device : Device) : Prop where
  coherent : device.phone.Coherent
  unread : device.phone.log = []
  settings : device.phone.settings = (duet.phone side).settings
  maker : device.phone.maker = (duet.phone side).maker
  asked : device.phone.refreshing = true → device.requests ≠ 0 ∨ .refreshRelay ∈ device.errands

namespace Device.Keeps

variable {device : Device}

/-- What else a device has to do may change, as long as no request is lost. -/
theorem of_phone {other : Device} (keeps : device.Keeps duet side)
    (phone : other.phone = device.phone)
    (asked : device.requests ≠ 0 ∨ .refreshRelay ∈ device.errands →
      other.requests ≠ 0 ∨ .refreshRelay ∈ other.errands) : other.Keeps duet side where
  coherent := phone ▸ keeps.coherent
  unread := phone ▸ keeps.unread
  settings := phone ▸ keeps.settings
  maker := phone ▸ keeps.maker
  asked waits := asked (keeps.asked (phone ▸ waits))

theorem meet (keeps : device.Keeps duet side) (now : Instant) (occurrence : Occurrence) :
    (device.meet now occurrence).Keeps duet side := by
  have steady := Phone.steady_after keeps.coherent now occurrence
  have moved := Phone.coherent_of_move (Phone.move_after keeps.coherent now occurrence)
    keeps.coherent
  refine ⟨moved.withLog [], rfl, steady.settings.trans keeps.settings, steady.maker.trans keeps.maker,
    fun waits => ?_⟩
  rcases steady.asked waits with before | ordered
  · rcases keeps.asked before with requested | there
    · exact .inl requested
    · exact .inr (List.mem_append_left _ there)
  · exact .inr (List.mem_append_right _ (LogEntry.mem_errands ordered))

/-- The end of a request leaves nothing to wait for. -/
theorem relay (keeps : device.Keeps duet side) (rest : Nat) (now : Instant)
    (outcome : Except String Relay.Grant) :
    (Device.meet { device with requests := rest } now (.relayRefreshed outcome)).Keeps duet
      side := by
  have met := keeps.meet now (.relayRefreshed outcome)
  refine ⟨met.coherent, rfl, met.settings, met.maker, fun waits => ?_⟩
  have refreshed : (device.phone.relayRefreshed now outcome).refreshing = true := waits
  simp [Phone.refreshing_relayRefreshed] at refreshed

end Device.Keeps

/-! ## What is on its way -/

/-- The letters of some signals. -/
def letters (items : List (RoomId × OutgoingSignal)) : List (String × Json) :=
  items.map fun item => item.2.letter

@[simp]
theorem letters_append (first second : List (RoomId × OutgoingSignal)) :
    letters (first ++ second) = letters first ++ letters second :=
  List.map_append

/-- The letters from a user that wait at a device. -/
def Device.posted (device : Device) (user : UserId) : List (String × Json) :=
  (device.inbox.filter fun event => event.sender = user).map TimelineEvent.letter

/-- The letters that a device has yet to send. -/
def Device.unsent (device : Device) : List (String × Json) :=
  letters (Errand.sends device.errands)

/-- The call is under way: both devices stand somewhere in it, and what was said is heard or on its
way. -/
structure State.Underway (duet : Duet) (id : CallId) (heard : Role → Nat) (spoken : Role → Bool)
    (state : State) : Prop where
  started : state.started = true
  keeps : ∀ side, (state.device side).Keeps duet side
  stage : ∀ side, duet.Stage id side (heard side) (spoken side) (state.device side).phone
    (state.device side).callbacks
  bounded : ∀ side, heard side ≤ (duet.said id side.other (spoken side.other)).length
  coming : ∀ side, (state.device side).posted (duet.user side.other) ++
      (state.device side.other).unsent =
    (letters (duet.said id side.other (spoken side.other))).drop (heard side)
  posted : ∀ side, ∀ event ∈ (state.device side).inbox, ∃ author,
    event.sender = duet.user author ∧ event.letter ∈ letters (duet.said id author (spoken author))
  ordered : ∀ side, ∀ item ∈ Errand.sends (state.device side).errands,
    item ∈ duet.said id side (spoken side)
  sent : ∀ item ∈ state.sent, ∃ author, item ∈ duet.said id author (spoken author)

namespace State.Underway

variable {heard : Role → Nat} {spoken : Role → Bool} {state : State}

/-- One device moves on: it hears more or says more, and nothing else changes. -/
theorem put {device : Device} {more : Nat} {after : Bool} {sent : List (RoomId × OutgoingSignal)}
    (underway : state.Underway duet id heard spoken) (side : Role)
    (keeps : device.Keeps duet side)
    (stage : duet.Stage id side more after device.phone device.callbacks)
    (grown : duet.said id side (spoken side) ++ sent = duet.said id side after)
    (ordered : Errand.sends device.errands = Errand.sends (state.device side).errands ++ sent)
    (inbox : ∀ event ∈ device.inbox, event ∈ (state.device side).inbox)
    (bounded : more ≤ (duet.said id side.other (spoken side.other)).length)
    (coming : device.posted (duet.user side.other) ++ (state.device side.other).unsent =
      (letters (duet.said id side.other (spoken side.other))).drop more) :
    (state.put side device).Underway duet id (Function.update heard side more)
      (Function.update spoken side after) := by
  have longer : ∀ author, ∃ rest, duet.said id author (Function.update spoken side after author) =
      duet.said id author (spoken author) ++ rest := by
    intro author
    rcases author.eq_or_other side with rfl | rfl
    · exact ⟨sent, by rw [Function.update_self, grown]⟩
    · exact ⟨[], by rw [Function.update_of_ne side.other_ne, List.append_nil]⟩
  refine ⟨underway.started, ?_, ?_, ?_, ?_, ?_, ?_, ?_⟩
  · intro role
    rcases role.eq_or_other side with rfl | rfl
    · rwa [State.device_put_self]
    · rw [State.device_put_other]
      exact underway.keeps _
  · intro role
    rcases role.eq_or_other side with rfl | rfl
    · rw [State.device_put_self, Function.update_self, Function.update_self]
      exact stage
    · rw [State.device_put_other, Function.update_of_ne side.other_ne,
        Function.update_of_ne side.other_ne]
      exact underway.stage _
  · intro role
    rcases role.eq_or_other side with rfl | rfl
    · rwa [Function.update_self, Function.update_of_ne role.other_ne]
    · have before := underway.bounded side.other
      rw [Role.other_other] at before
      rw [Role.other_other, Function.update_of_ne side.other_ne, Function.update_self, ← grown,
        List.length_append]
      omega
  · intro role
    rcases role.eq_or_other side with rfl | rfl
    · rw [State.device_put_self, State.device_put_other, Function.update_self,
        Function.update_of_ne role.other_ne]
      exact coming
    · have before := underway.coming side.other
      have reached := underway.bounded side.other
      rw [Role.other_other] at before reached
      rw [Role.other_other, State.device_put_other, State.device_put_self, Device.unsent, ordered,
        letters_append, ← List.append_assoc, Function.update_of_ne side.other_ne,
        Function.update_self, ← grown, letters_append,
        List.drop_append_of_le_length (by rwa [letters, List.length_map]), ← before]
      rfl
  · intro role event there
    have before : event ∈ (state.device role).inbox := by
      rcases role.eq_or_other side with rfl | rfl
      · rw [State.device_put_self] at there
        exact inbox event there
      · rwa [State.device_put_other] at there
    rcases underway.posted role event before with ⟨author, sender, letter⟩
    rcases longer author with ⟨rest, same⟩
    refine ⟨author, sender, ?_⟩
    rw [same, letters_append]
    exact List.mem_append_left _ letter
  · intro role item there
    rcases role.eq_or_other side with rfl | rfl
    · rw [State.device_put_self, ordered] at there
      rw [Function.update_self, ← grown]
      rcases List.mem_append.mp there with before | new
      · exact List.mem_append_left _ (underway.ordered role item before)
      · exact List.mem_append_right _ new
    · rw [State.device_put_other] at there
      rw [Function.update_of_ne side.other_ne]
      exact underway.ordered _ item there
  · intro item there
    rcases underway.sent item there with ⟨author, said⟩
    rcases longer author with ⟨rest, same⟩
    exact ⟨author, same ▸ List.mem_append_left rest said⟩

/-- A device meets something, and its phone comes to another stage. -/
theorem meet {device : Device} {now : Instant} {occurrence : Occurrence} {more : Nat}
    {after : Bool} {sent : List (RoomId × OutgoingSignal)}
    (underway : state.Underway duet id heard spoken) (side : Role)
    (keeps : (device.meet now occurrence).Keeps duet side)
    (comes : duet.Comes id side more after device.callbacks sent
      (device.phone.after now occurrence))
    (grown : duet.said id side (spoken side) ++ sent = duet.said id side after)
    (errands : device.errands = (state.device side).errands)
    (inbox : ∀ event ∈ device.inbox, event ∈ (state.device side).inbox)
    (bounded : more ≤ (duet.said id side.other (spoken side.other)).length)
    (coming : device.posted (duet.user side.other) ++ (state.device side.other).unsent =
      (letters (duet.said id side.other (spoken side.other))).drop more) :
    (state.put side (device.meet now occurrence)).Underway duet id
      (Function.update heard side more) (Function.update spoken side after) := by
  refine underway.put side keeps (comes.stage.congr rfl rfl rfl rfl) grown ?_ inbox bounded coming
  rw [← comes.sends, ← Errand.sends_errands, ← errands, ← Errand.sends_append]
  rfl

/-- A device changes in ways that nobody hears of. -/
theorem replace {device : Device} (underway : state.Underway duet id heard spoken) (side : Role)
    (keeps : device.Keeps duet side) (phone : device.phone = (state.device side).phone)
    (callbacks : device.callbacks = (state.device side).callbacks)
    (inbox : device.inbox = (state.device side).inbox)
    (sends : Errand.sends device.errands = Errand.sends (state.device side).errands) :
    (state.put side device).Underway duet id heard spoken := by
  have coming := underway.coming side
  rw [Device.posted, ← inbox] at coming
  have moved := underway.put side keeps (phone ▸ callbacks ▸ underway.stage side)
    (List.append_nil _) (by rw [sends, List.append_nil]) (by simp [inbox]) (underway.bounded side)
    coming
  rwa [Function.update_eq_self, Function.update_eq_self] at moved

/-- Everything that is said goes to the room of the call. -/
theorem room_of_said {item : RoomId × OutgoingSignal} {spoke : Bool}
    (there : item ∈ duet.said id side spoke) : item.1 = duet.room := by
  cases spoke with
  | false => simp [said] at there
  | true =>
      rcases List.mem_map.mp there with ⟨signal, _, rfl⟩
      rfl

/-- What is said is posted: it leaves the orders of one device and waits at both. -/
theorem carry_send {signal : OutgoingSignal} {room : RoomId} {later : List Errand}
    (fits : duet.Fits) (underway : state.Underway duet id heard spoken) (side : Role)
    (event : EventId) (now : Instant)
    (waits : (state.device side).errands = .send room signal :: later) :
    (duet.carryOut (state.put side { state.device side with errands := later }) side event now
      (.send room signal)).Underway duet id heard spoken := by
  have said : (room, signal) ∈ duet.said id side (spoken side) := by
    apply underway.ordered
    rw [waits]
    exact List.mem_cons_self
  have here : room = duet.room := room_of_said said
  unfold carryOut
  dsimp only
  rw [if_pos here]
  refine ⟨underway.started, ?_, ?_, underway.bounded, ?_, ?_, ?_, ?_⟩
  · intro role
    rcases role.eq_or_other side with rfl | rfl
    · refine (underway.keeps role).of_phone (by simp [State.post]) ?_
      simp [State.post, waits]
    · refine (underway.keeps side.other).of_phone (by simp [State.post]) ?_
      simp [State.post]
  · intro role
    have before := underway.stage role
    rcases role.eq_or_other side with rfl | rfl
    · simpa [State.post] using before
    · simpa [State.post] using before
  · intro role
    have before := underway.coming role
    rcases role.eq_or_other side with rfl | rfl
    · have apart := (fits.user_other_ne role).symm
      simpa [State.post, Device.posted, Device.unsent, apart] using before
    · rw [Role.other_other] at before ⊢
      rw [← before]
      simp [State.post, Device.posted, Device.unsent, waits, letters, Errand.sends,
        TimelineEvent.letter, OutgoingSignal.letter]
  · intro role other there
    have before : other ∈ (state.device role).inbox ∨
        other = ⟨event, signal.kind.eventType, duet.user side, now, signal.content⟩ := by
      rcases role.eq_or_other side with rfl | rfl
      · simpa [State.post] using there
      · simpa [State.post] using there
    rcases before with before | rfl
    · exact underway.posted role other before
    · exact ⟨side, rfl, List.mem_map_of_mem said⟩
  · intro role item there
    apply underway.ordered
    rcases role.eq_or_other side with rfl | rfl
    · simp only [State.post, State.device_put_self] at there
      rw [waits]
      exact List.mem_cons_of_mem _ there
    · simpa [State.post] using there
  · intro item there
    simp only [State.post, State.put, List.mem_append, List.mem_singleton] at there
    rcases there with before | rfl
    · exact underway.sent item before
    · exact ⟨side, said⟩

theorem carry {errand : Errand} {later : List Errand} (fits : duet.Fits)
    (underway : state.Underway duet id heard spoken) (side : Role) (event : EventId)
    (now : Instant) (waits : (state.device side).errands = errand :: later) :
    (duet.carryOut (state.put side { state.device side with errands := later }) side event now
      errand).Underway duet id heard spoken := by
  have before := underway.keeps side
  cases errand with
  | send => exact underway.carry_send fits side event now waits
  | refreshRelay =>
      unfold carryOut
      rw [State.put_put, State.device_put_self]
      refine underway.replace side (before.of_phone rfl fun _ => .inl (Nat.succ_ne_zero _)) rfl rfl
        rfl ?_
      rw [waits]
      rfl
  | armTimer | cancelTimer =>
      refine underway.replace side (before.of_phone rfl (by simp [waits])) rfl rfl rfl ?_
      rw [waits]
      rfl

end State.Underway

/-! ## What is heard next -/

/-- A side that has spoken has said two things, and both can be read. -/
theorem said_eq (fits : duet.Fits) (named : id.text.isEmpty = false) (side : Role) :
    ∃ first second, letters (duet.said id side true) = [first, second] ∧
      (∀ event : TimelineEvent, event.letter = first →
        Signal.ofEvent event = .ok ⟨event.sender, event.sentAt, duet.opening id side⟩) ∧
      ∀ event : TimelineEvent, event.letter = second →
        Signal.ofEvent event =
          .ok ⟨event.sender, event.sentAt, .candidates (duet.batch id side)⟩ := by
  rcases speech_eq fits named side with ⟨first, second, speech, opening, batch⟩
  refine ⟨first.letter, second.letter, ?_, fun _ same => Signal.ofEvent_of_letter same opening,
    fun _ same => Signal.ofEvent_of_letter same batch⟩
  simp [said, speech, letters]

/-- A side that has spoken has said two things. -/
theorem length_said (fits : duet.Fits) (named : id.text.isEmpty = false) (side : Role) :
    (duet.said id side true).length = 2 := by
  rcases said_eq fits named side with ⟨_, _, both, _⟩
  simpa [letters] using congrArg List.length both

/-- A device that has spoken is in the call. -/
theorem Stage.joins_of_spoken {heard : Nat} {phone : Phone Scripted}
    {callbacks : List (SessionId × Engine.Callback)}
    (stage : duet.Stage id side heard true phone callbacks) :
    ∃ call, phone.call = some call ∧ duet.Joins id side heard call := by
  cases stage with
  | offered current _ joins | answered current _ joins | active current _ joins =>
      exact ⟨_, current, joins⟩

/-- The side that answers has heard the invite before it speaks. -/
theorem Stage.invited_of_spoken {heard : Nat} {phone : Phone Scripted}
    {callbacks : List (SessionId × Engine.Callback)}
    (stage : duet.Stage id .answering heard true phone callbacks) : heard ≠ 0 := by
  cases stage with
  | active _ _ _ _ answered => exact answered

namespace State.Underway

variable {heard : Role → Nat} {spoken : Role → Bool} {state : State} {event : TimelineEvent}
  {later : List TimelineEvent}

/-- What a device hears of itself is something that it has said. -/
theorem own_event (fits : duet.Fits) (named : id.text.isEmpty = false)
    (underway : state.Underway duet id heard spoken)
    (waits : (state.device side).inbox = event :: later) (own : event.sender = duet.user side) :
    spoken side = true ∧ ∃ message, message.party = some (duet.party side) ∧
      Signal.ofEvent event = .ok ⟨event.sender, event.sentAt, message⟩ := by
  rcases underway.posted side event (waits ▸ List.mem_cons_self) with ⟨author, sender, letter⟩
  have same : author = side := by
    rcases author.eq_or_other side with rfl | rfl
    · rfl
    · exact absurd (sender.symm.trans own) (fits.user_other_ne side)
  subst same
  cases spoke : spoken author with
  | false => simp [spoke, said, letters] at letter
  | true =>
      rcases said_eq fits named author with ⟨first, second, both, opening, batch⟩
      rw [spoke, both, List.mem_pair] at letter
      refine ⟨rfl, ?_⟩
      rcases letter with same | same
      · exact ⟨_, by cases author <;> rfl, opening event same⟩
      · exact ⟨_, rfl, batch event same⟩

/-- What a device hears next of the other side is the next thing that was said. -/
theorem next_event (fits : duet.Fits) (named : id.text.isEmpty = false)
    (underway : state.Underway duet id heard spoken)
    (waits : (state.device side).inbox = event :: later)
    (sender : event.sender = duet.user side.other) :
    spoken side.other = true ∧ heard side < (duet.said id side.other (spoken side.other)).length ∧
      (heard side = 0 ∧ Signal.ofEvent event =
          .ok ⟨event.sender, event.sentAt, duet.opening id side.other⟩ ∨
        heard side = 1 ∧ Signal.ofEvent event =
          .ok ⟨event.sender, event.sentAt, .candidates (duet.batch id side.other)⟩) ∧
      Device.posted { state.device side with inbox := later } (duet.user side.other) ++
          (state.device side.other).unsent =
        (letters (duet.said id side.other (spoken side.other))).drop (heard side + 1) := by
  have coming := underway.coming side
  have split : (state.device side).posted (duet.user side.other) = event.letter ::
      Device.posted { state.device side with inbox := later } (duet.user side.other) := by
    simp [Device.posted, waits, sender]
  rw [split, List.cons_append] at coming
  cases spoke : spoken side.other with
  | false => simp [spoke, said, letters] at coming
  | true =>
      rcases said_eq fits named side.other with ⟨first, second, both, opening, batch⟩
      have length := length_said fits named side.other
      rw [spoke, both] at coming
      rw [both, length]
      match count : heard side with
      | 0 =>
          rw [count, List.drop_zero, List.cons.injEq] at coming
          exact ⟨rfl, by simp, .inl ⟨rfl, opening event coming.1⟩, coming.2⟩
      | 1 =>
          rw [count, List.drop_succ_cons, List.drop_zero, List.cons.injEq] at coming
          exact ⟨rfl, by simp, .inr ⟨rfl, batch event coming.1⟩, coming.2⟩
      | more + 2 => simp [count] at coming

/-- A device passes over what it said itself. -/
theorem hear_own {now : Instant} (fits : duet.Fits) (named : id.text.isEmpty = false)
    (underway : state.Underway duet id heard spoken)
    (waits : (state.device side).inbox = event :: later) (own : event.sender = duet.user side) :
    (state.put side (Device.meet { state.device side with inbox := later } now
      (.event (duet.view side) event))).Underway duet id heard spoken := by
  have before := underway.keeps side
  rcases underway.own_event fits named waits own with ⟨spoke, message, party, read⟩
  rcases (spoke ▸ underway.stage side).joins_of_spoken with ⟨call, current, joins⟩
  have still : (state.device side).phone.after now (.event (duet.view side) event) =
      (state.device side).phone := by
    change (state.device side).phone.hearEvent now (duet.view side) event = _
    rw [Phone.hearEvent, read]
    exact Duet.hear_own current joins own party
  have passed : Device.posted { state.device side with inbox := later } (duet.user side.other) =
      (state.device side).posted (duet.user side.other) := by
    simp [Device.posted, waits, own, (fits.user_other_ne side).symm]
  have keeps : Device.Keeps duet side { state.device side with inbox := later } :=
    before.of_phone rfl fun asked => asked
  have comes := comes_still before.unread (underway.stage side)
  rw [← still] at comes
  have met := underway.meet side (keeps.meet now _) comes (List.append_nil _) rfl
    (by simp +contextual [waits]) (underway.bounded side) (passed ▸ underway.coming side)
  rwa [Function.update_eq_self, Function.update_eq_self] at met

/-- The side that answers speaks only after the side that calls. -/
theorem offering_spoken (underway : state.Underway duet id heard spoken)
    (spoke : spoken .answering = true) : spoken .offering = true := by
  have invited := (spoke ▸ underway.stage .answering).invited_of_spoken
  cases offered : spoken .offering with
  | true => rfl
  | false =>
      have bounded := underway.bounded .answering
      rw [Role.other, offered] at bounded
      exact absurd (Nat.le_zero.mp bounded) invited

/-- What the other side says next is taken up. -/
theorem comes_next {now : Instant} (fits : duet.Fits) (named : id.text.isEmpty = false)
    (underway : state.Underway duet id heard spoken)
    (waits : (state.device side).inbox = event :: later)
    (sender : event.sender = duet.user side.other)
    (timely : side = .answering → Timely (state.device side).phone now event) :
    duet.Comes id side (heard side + 1) (spoken side) (state.device side).callbacks []
      ((state.device side).phone.after now (.event (duet.view side) event)) := by
  have before := underway.keeps side
  have stage := underway.stage side
  rcases underway.next_event fits named waits sender with ⟨spoke, _, next, _⟩
  change duet.Comes id side _ _ _ [] ((state.device side).phone.hearEvent now (duet.view side) event)
  unfold Phone.hearEvent
  cases side with
  | answering =>
      rcases next with ⟨count, read⟩ | ⟨count, read⟩
      · rw [count] at stage ⊢
        rw [read]
        exact comes_invited fits before.unread stage sender rfl (timely rfl _ _ read rfl)
      · rw [count] at stage ⊢
        rw [read]
        exact comes_candidates_answering fits before.coherent before.unread stage sender rfl
  | offering =>
      rcases next with ⟨count, read⟩ | ⟨count, read⟩
      · rw [count, underway.offering_spoken spoke] at stage
        rw [count, read, underway.offering_spoken spoke]
        exact comes_answered fits before.coherent before.unread stage sender rfl
      · rw [count] at stage ⊢
        rw [read]
        exact comes_candidates_offering fits before.coherent before.unread stage sender rfl

/-- A device takes up what the other side says. -/
theorem hear_other {now : Instant} (fits : duet.Fits) (named : id.text.isEmpty = false)
    (underway : state.Underway duet id heard spoken)
    (waits : (state.device side).inbox = event :: later)
    (sender : event.sender = duet.user side.other)
    (timely : side = .answering → Timely (state.device side).phone now event) :
    (state.put side (Device.meet { state.device side with inbox := later } now
      (.event (duet.view side) event))).Underway duet id
        (Function.update heard side (heard side + 1)) spoken := by
  have before := underway.keeps side
  have keeps : Device.Keeps duet side { state.device side with inbox := later } :=
    before.of_phone rfl fun asked => asked
  rcases underway.next_event fits named waits sender with ⟨_, bounded, _, coming⟩
  have comes := underway.comes_next fits named waits sender timely
  have met := underway.meet side (keeps.meet now _) comes (List.append_nil _) rfl
    (by simp +contextual [waits]) bounded coming
  rwa [Function.update_eq_self] at met

/-! ## Steps and runs -/

/-- Every step of a call that is under way keeps it so. -/
theorem step {next : State} (fits : duet.Fits) (named : id.text.isEmpty = false)
    (underway : state.Underway duet id heard spoken) (step : duet.Step state next) :
    ∃ heard spoken, next.Underway duet id heard spoken := by
  cases step with
  | start now fresh => simp [underway.started] at fresh
  | accept now current rings unaccepted =>
      have before := underway.keeps .answering
      exact ⟨_, _, underway.meet .answering (before.meet now .accept)
        (comes_accept fits before.coherent before.unread before.maker current rings unaccepted
          (underway.stage .answering))
        (List.append_nil _) rfl (fun _ there => there) (underway.bounded _) (underway.coming _)⟩
  | @callback side session callback later now waits =>
      have before := underway.keeps side
      have keeps : Device.Keeps duet side { state.device side with callbacks := later } :=
        before.of_phone rfl fun asked => asked
      rcases comes_hearEngine before.coherent before.unread before.settings
          (waits ▸ underway.stage side) with ⟨after, sent, comes, grown⟩
      exact ⟨_, _, underway.meet side (keeps.meet now (.callback session callback)) comes grown rfl
        (fun _ there => there) (underway.bounded _) (underway.coming _)⟩
  | carry side event now waits => exact ⟨_, _, underway.carry fits side event now waits⟩
  | @relay side rest now outcome asked =>
      have before := underway.keeps side
      exact ⟨_, _, underway.meet side (before.relay rest now outcome)
        (comes_relayRefreshed fits before.coherent before.unread before.maker
          (underway.stage side) outcome)
        (List.append_nil _) rfl (fun _ there => there) (underway.bounded _) (underway.coming _)⟩
  | @hear side event later now waits timely =>
      rcases underway.posted side event (waits ▸ List.mem_cons_self) with ⟨author, sender, _⟩
      rcases author.eq_or_other side with rfl | rfl
      · exact ⟨_, _, underway.hear_own fits named waits sender⟩
      · exact ⟨_, _, underway.hear_other fits named waits sender timely⟩

end State.Underway

/-- A device is as it was at first, except for relay credentials. -/
structure Device.Unused (duet : Duet) (side : Role) (device : Device) : Prop where
  keeps : device.Keeps duet side
  idle : device.phone.call = none
  capable : device.phone.missing = []
  streams : device.phone.streamNames = (duet.phone side).streamNames
  parties : device.phone.partyNames = (duet.phone side).partyNames
  callbacks : device.callbacks = []
  errands : device.errands = []
  inbox : device.inbox = []

/-- A phone without a call takes note of the outcome of a request. -/
theorem Device.Unused.relay {device : Device} (unused : device.Unused duet side) (rest : Nat)
    (now : Instant) (outcome : Except String Relay.Grant) :
    (Device.meet { device with requests := rest } now (.relayRefreshed outcome)).Unused duet
      side := by
  have idle : (device.phone.refreshed now outcome).call = none := unused.idle
  have noted : device.phone.after now (.relayRefreshed outcome) =
      device.phone.refreshed now outcome := by
    change device.phone.relayRefreshed now outcome = _
    rw [Phone.relayRefreshed_eq]
    exact Phone.resume_undeferred fun call current => by simp [idle] at current
  have keeps := unused.keeps.relay rest now outcome
  have met : Device.meet { device with requests := rest } now (.relayRefreshed outcome) =
      { device with requests := rest, phone := device.phone.refreshed now outcome } := by
    unfold Device.meet
    rw [noted]
    simp [Phone.refreshed, unused.keeps.unread, LogEntry.errands]
  rw [met] at keeps ⊢
  exact ⟨keeps, unused.idle, unused.capable, unused.streams, unused.parties, unused.callbacks,
    unused.errands, unused.inbox⟩

/-- The call was not started, and nothing was said. -/
structure State.Unstarted (duet : Duet) (state : State) : Prop where
  fresh : state.started = false
  unused : ∀ side, (state.device side).Unused duet side
  unsaid : state.sent = []

theorem unstarted_start (fits : duet.Fits) : duet.start.Unstarted duet where
  fresh := rfl
  unused side := by
    rcases fits.idle side with ⟨idle, phase, roster⟩
    refine ⟨⟨.of_idle idle phase roster, fits.unread side, rfl, rfl, fun waits => .inl ?_⟩, idle,
      fits.capable side, rfl, rfl, rfl, rfl, rfl⟩
    have waits : (duet.phone side).refreshing = true := waits
    simp [start, waits]
  unsaid := rfl

/-- Either the call was not started, or it is under way. -/
def State.Sound (duet : Duet) (state : State) : Prop :=
  state.Unstarted duet ∨ ∃ id heard spoken, id.text.isEmpty = false ∧
    state.Underway duet id heard spoken

/-- The start brings the call under way. -/
theorem State.Unstarted.underway {state next : State} (fits : duet.Fits)
    (unstarted : state.Unstarted duet) (now : Instant) (started : next.started = true)
    (caller : next.device .offering =
      (state.device .offering).meet now (.startCall (duet.view .offering)))
    (callee : next.device .answering = state.device .answering) (unsaid : next.sent = []) :
    next.Underway duet (CallId.fresh now (state.device .offering).phone.callTokens.draw.1)
      (fun _ => 0) (fun _ => false) := by
  have first := unstarted.unused .offering
  have second := unstarted.unused .answering
  have comes : duet.Comes (CallId.fresh now (state.device .offering).phone.callTokens.draw.1)
      .offering 0 false [] []
      ((state.device .offering).phone.startCall now (duet.view .offering)).1 :=
    comes_startCall fits (first.keeps.coherent.idle first.idle).1 first.capable first.keeps.unread
      first.keeps.maker first.streams first.parties
  have unheard : ∀ side, (next.device side).inbox = [] := by
    intro side
    cases side with
    | offering =>
        rw [caller]
        exact first.inbox
    | answering => rw [callee, second.inbox]
  have silent : ∀ side, Errand.sends (next.device side).errands = [] := by
    intro side
    cases side with
    | offering =>
        rw [caller]
        change Errand.sends ((state.device .offering).errands ++ LogEntry.errands
          ((state.device .offering).phone.startCall now (duet.view .offering)).1.log) = []
        rw [first.errands, List.nil_append, Errand.sends_errands, comes.sends]
    | answering =>
        rw [callee, second.errands]
        rfl
  refine ⟨started, ?_, ?_, fun _ => Nat.zero_le _, ?_, ?_, ?_, ?_⟩
  · intro side
    cases side with
    | offering =>
        rw [caller]
        exact first.keeps.meet now _
    | answering =>
        rw [callee]
        exact second.keeps
  · intro side
    cases side with
    | offering =>
        rw [caller]
        have stage := comes.stage
        rw [← first.callbacks] at stage
        exact stage.congr rfl rfl rfl rfl
    | answering =>
        rw [callee, second.callbacks]
        exact .idle second.idle second.streams second.parties
  · intro side
    simp [Device.posted, Device.unsent, unheard, silent, said, letters]
  · intro side event there
    simp [unheard] at there
  · intro side item there
    simp [silent] at there
  · intro item there
    simp [unsaid] at there

/-- Before the call the outcomes of requests for relay credentials are all that can happen. -/
theorem State.Unstarted.step {state next : State} (fits : duet.Fits)
    (unstarted : state.Unstarted duet) (step : duet.Step state next) : next.Sound duet := by
  cases step with
  | start now fresh =>
      refine .inr ⟨_, _, _, CallId.isEmpty_fresh _ _, unstarted.underway fits now rfl ?_ ?_
        unstarted.unsaid⟩
      · exact State.device_put_self state .offering _
      · exact State.device_put_other state .offering
          ((state.device .offering).meet now (.startCall (duet.view .offering)))
  | accept now current => simp [(unstarted.unused .answering).idle] at current
  | callback side now waits => simp [(unstarted.unused side).callbacks] at waits
  | carry side event now waits => simp [(unstarted.unused side).errands] at waits
  | @relay side rest now outcome asked =>
      refine .inl ⟨unstarted.fresh, fun role => ?_, unstarted.unsaid⟩
      rcases role.eq_or_other side with rfl | rfl
      · rw [State.device_put_self]
        exact (unstarted.unused role).relay rest now outcome
      · rw [State.device_put_other]
        exact unstarted.unused _
  | hear side now waits => simp [(unstarted.unused side).inbox] at waits

theorem sound_of_reached {state : State} (fits : duet.Fits) (reached : duet.Reached state) :
    state.Sound duet := by
  induction reached with
  | start => exact .inl (unstarted_start fits)
  | step _ step ih =>
      rcases ih with unstarted | ⟨id, heard, spoken, named, underway⟩
      · exact unstarted.step fits step
      · rcases underway.step fits named step with ⟨heard, spoken, next⟩
        exact .inr ⟨id, heard, spoken, named, next⟩

/-! ## The end -/

/-- Both devices are in one call that is established and connected, each knows the other and has all
its candidates, and nobody hung up. -/
structure State.Agrees (duet : Duet) (call : Role → Call Scripted) (state : State) : Prop where
  current : ∀ side, (state.device side).phone.call = some (call side)
  active : ∀ side, (state.device side).phone.phase = .active
  connected : ∀ side, (state.device side).phone.progress = .connected
  same : (call .offering).id = (call .answering).id
  known : ∀ side, (call side).remoteParty = some (call side.other).party
  candidates : ∀ side, ∃ negotiation, (call side).negotiation = some negotiation ∧
    negotiation.engine.remoteCandidates = Candidate.usable (duet.script side.other).candidates
  kind : ∀ item ∈ state.sent, item.2.kind ≠ .hangup

/-- A side says its description and its candidates, and no hangup. -/
theorem kind_of_said {item : RoomId × OutgoingSignal} {spoke : Bool}
    (there : item ∈ duet.said id side spoke) : item.2.kind ≠ .hangup := by
  cases spoke with
  | false => simp [said] at there
  | true =>
      rcases List.mem_map.mp there with ⟨signal, inside, rfl⟩
      cases side with
      | offering | answering =>
          rcases List.mem_pair.mp inside with rfl | rfl <;> exact nofun

/-- The caller has spoken when nothing waits at it any more. -/
theorem Stage.spoken_of_quiet {heard : Nat} {spoken : Bool} {phone : Phone Scripted}
    (stage : duet.Stage id .offering heard spoken phone []) (coherent : phone.Coherent)
    (served : phone.refreshing = false) : spoken = true := by
  generalize quiet : ([] : List (SessionId × Engine.Callback)) = callbacks at stage
  cases stage with
  | waits current deferred =>
      simp [(coherent.stands current).requested deferred] at served
  | prepares prepares leads => cases leads <;> cases quiet
  | offered | answered | active => rfl

/-- A device that has heard everything and at which nothing waits any more is in an established call
that is connected. -/
theorem Stage.active_of_quiet {spoken : Bool} {phone : Phone Scripted}
    (stage : duet.Stage id side 2 spoken phone []) (coherent : phone.Coherent)
    (served : phone.refreshing = false)
    (accepted : side = .answering → ∀ call, phone.call = some call → phone.phase = .incoming →
      call.accepted = true) :
    spoken = true ∧ phone.phase = .active ∧ ∃ call negotiation, phone.call = some call ∧
      duet.Joins id side 2 call ∧ duet.Hands side 2 call negotiation ∧
      negotiation.progress = .connected := by
  generalize quiet : ([] : List (SessionId × Engine.Callback)) = callbacks at stage
  generalize both : 2 = heard at stage
  cases stage with
  | idle | offered | answered => cases both
  | rings current incoming unaccepted =>
      simp [accepted rfl _ current incoming] at unaccepted
  | waits current deferred =>
      simp [(coherent.stands current).requested deferred] at served
  | prepares prepares leads => cases leads <;> cases quiet
  | active current established joins hands _ connects =>
      subst both
      cases connects with
      | done connected => exact ⟨rfl, established, _, _, current, joins, hands, connected⟩
      | move => cases quiet

namespace State.Underway

variable {heard : Role → Nat} {spoken : Role → Bool} {state : State}

/-- When nothing is left to be done, no phone waits for relay credentials. -/
theorem served (underway : state.Underway duet id heard spoken) (settled : state.Settled)
    (side : Role) : (state.device side).phone.refreshing = false := by
  rcases settled.quiet side with ⟨_, errands, requests, _⟩
  rw [← Bool.not_eq_true]
  intro refreshing
  rcases (underway.keeps side).asked refreshing with asked | ordered
  · exact asked requests
  · simp [errands] at ordered

/-- When nothing is left to be done, everything that was said has been heard. -/
theorem heard_of_spoken (fits : duet.Fits) (named : id.text.isEmpty = false)
    (underway : state.Underway duet id heard spoken) (settled : state.Settled)
    (spoke : spoken side.other = true) : heard side = 2 := by
  rcases settled.quiet side with ⟨_, _, _, inbox⟩
  rcases settled.quiet side.other with ⟨_, errands, _, _⟩
  have length := length_said fits named side.other
  have coming := underway.coming side
  have bounded := underway.bounded side
  rw [spoke, length] at bounded
  rw [spoke, Device.posted, inbox, Device.unsent, errands] at coming
  have all := List.drop_eq_nil_iff.mp coming.symm
  rw [letters, List.length_map, length] at all
  omega

/-- When nothing is left to be done, both devices are in an established call that is connected. -/
theorem active_of_settled (fits : duet.Fits) (named : id.text.isEmpty = false)
    (underway : state.Underway duet id heard spoken) (settled : state.Settled) (side : Role) :
    (state.device side).phone.phase = .active ∧ ∃ call negotiation,
      (state.device side).phone.call = some call ∧ duet.Joins id side 2 call ∧
      duet.Hands side 2 call negotiation ∧ negotiation.progress = .connected := by
  have stage : ∀ side, duet.Stage id side (heard side) (spoken side)
      (state.device side).phone [] := by
    intro side
    exact (settled.quiet side).1 ▸ underway.stage side
  -- The caller speaks whatever it hears, so the other side has an invite to answer.
  have invited : heard .answering = 2 :=
    underway.heard_of_spoken fits named settled ((stage .offering).spoken_of_quiet
      (underway.keeps .offering).coherent (underway.served settled .offering))
  have callee := (invited ▸ stage .answering).active_of_quiet
    (underway.keeps .answering).coherent (underway.served settled .answering)
    fun _ => settled.answered
  have answered : heard .offering = 2 := underway.heard_of_spoken fits named settled callee.1
  have caller := (answered ▸ stage .offering).active_of_quiet (underway.keeps .offering).coherent
    (underway.served settled .offering) (by simp)
  cases side with
  | offering => exact caller.2
  | answering => exact callee.2

end State.Underway

/-- However the steps of the two devices interleave, once the call was started and accepted and
nothing is left to be done, both are in the same call, and it is connected. -/
theorem agrees_of_settled {state : State} (fits : duet.Fits) (reached : duet.Reached state)
    (settled : state.Settled) : ∃ call, state.Agrees duet call := by
  rcases sound_of_reached fits reached with unstarted | ⟨id, heard, spoken, named, underway⟩
  · simpa [unstarted.fresh] using settled.started
  choose active call negotiation current joins hands connected using
    underway.active_of_settled fits named settled
  refine ⟨call, current, active, ?_, ?_, ?_, ?_, ?_⟩
  · intro side
    simp [Phone.progress, Phone.negotiation?, current, (hands side).opened, connected]
  · have first := congrArg CallIdentity.id (joins .offering).identity
    have second := congrArg CallIdentity.id (joins .answering).identity
    exact first.trans second.symm
  · intro side
    have party := congrArg CallIdentity.party (joins side.other).identity
    rw [(joins side).remoteParty]
    exact congrArg some party.symm
  · intro side
    exact ⟨negotiation side, (hands side).opened, (hands side).remote⟩
  · intro item there
    rcases underway.sent item there with ⟨author, said⟩
    exact kind_of_said said

/-! ## A duet -/

/-- A script with short descriptions. -/
def shortScript : Script where
  offer := "m=audio\na=rtpmap:1 opus"
  answer := "m=audio\na=rtpmap:1 opus"

/-- Two users with a microphone each. -/
def pair : Duet where
  room := Phone.pair.room
  members := Phone.pair.members
  user
    | .offering => ⟨"@alice"⟩
    | .answering => ⟨"@bob"⟩
  script _ := shortScript
  phone _ := { Phone.scripted with
    settings := {}
    inventory := { microphones := [⟨"1", "built in"⟩] }
    maker := { make := fun _ => { script := shortScript } } }

theorem fits_pair : pair.Fits where
  apart := by decide
  two := rfl
  members side := by cases side <;> decide
  idle _ := ⟨rfl, rfl, rfl⟩
  unread _ := rfl
  capable side := by cases side <;> decide
  engine _ _ := rfl
  connects _ := rfl
  words side := by cases side <;> decide
  compatible := by decide +kernel
  reachable := .inl (by decide)
  numbered _ candidate there := by
    rcases List.mem_singleton.mp there with rfl
    decide

/-- The callee accepts before the candidates of the caller arrive, and is connected before the caller
has heard of the answer. -/
def pairTurns : List (Instant × Turn) :=
  let callbacks (side : Role) (number : Nat) : List (Instant × Turn) :=
    List.replicate number (0, .callback side)
  let orders (side : Role) (number : Nat) : List (Instant × Turn) :=
    List.replicate number (0, .carry side)
  [(0, .start), (0, .carry .offering), (0, .relay .offering (.error "none"))] ++
    callbacks .offering 4 ++ orders .offering 3 ++
    [(0, .hear .answering), (0, .carry .answering), (0, .accept), (0, .carry .answering),
      (0, .relay .answering (.error "none")), (0, .callback .answering), (0, .hear .answering)] ++
    callbacks .answering 5 ++ orders .answering 3 ++
    [(0, .hear .offering), (0, .hear .answering), (0, .hear .offering), (0, .hear .offering),
      (0, .hear .answering), (0, .hear .offering), (0, .callback .offering),
      (0, .callback .offering), (0, .carry .offering)]

theorem agrees_of_settled_pair :
    ∃ state call, pair.follow? pair.start pairTurns = some state ∧ state.Settled ∧
      state.Agrees pair call := by
  have possible : (pair.follow? pair.start pairTurns).isSome = true := by decide +kernel
  have facts : ∀ state ∈ pair.follow? pair.start pairTurns, state.started = true ∧
      (state.device .answering).phone.phase = .active ∧
      ∀ side ∈ [Role.offering, .answering], (state.device side).callbacks = [] ∧
        (state.device side).errands = [] ∧ (state.device side).requests = 0 ∧
        (state.device side).inbox = [] := by decide +kernel
  rcases Option.isSome_iff_exists.mp possible with ⟨state, followed⟩
  rcases facts state followed with ⟨started, established, quiet⟩
  have settled : state.Settled := by
    refine ⟨started, fun call _ incoming => ?_, fun side => quiet side ?_⟩
    · simp [established] at incoming
    · cases side <;> simp
  rcases agrees_of_settled fits_pair (reached_follow? .start followed) settled with ⟨call, agrees⟩
  exact ⟨state, call, followed, settled, agrees⟩

end Duet

end RoomCall
