import RoomCall.Proofs.Negotiation.Scripted
import RoomCall.Proofs.Phone.Sending

/-!
# Two devices in a room

One device calls the other, and the other accepts. Both have scripted engines. What a phone orders is
carried out in order, what is sent reaches both devices in the order of the room, and callbacks are
handed over in the order in which they were posted. When each of this happens is left open, and so are
the instants and the outcomes of requests for relay credentials. No timer runs out, and nobody asks
for anything else.
-/

namespace RoomCall

open Engine (Scripted Script)

/-- The other one of two sides. -/
def Role.other : Role → Role
  | .offering => .answering
  | .answering => .offering

/-- The orders among some log entries. -/
def LogEntry.errands (entries : List LogEntry) : List Errand :=
  entries.filterMap fun entry =>
    match entry with
    | .errand order => some order
    | _ => none

/-- What is to be sent among some orders. -/
def Errand.sends (errands : List Errand) : List (RoomId × OutgoingSignal) :=
  errands.filterMap fun errand =>
    match errand with
    | .send room signal => some (room, signal)
    | _ => none

/-- Two users of a room, each with a phone and a script. The offering side calls. -/
structure Duet where
  room : RoomId
  members : List UserId
  user : Role → UserId
  script : Role → Script
  phone : Role → Phone Scripted

namespace Duet

/-- The room, seen by one of the two. -/
def view (duet : Duet) (side : Role) : Membership :=
  ⟨duet.room, duet.user side, duet.members⟩

/-- The name of a device in the call. -/
def party (duet : Duet) (side : Role) : PartyId :=
  ⟨(duet.phone side).partyNames.draw.1⟩

/-- The description of a side as it leaves the device. -/
def masked (duet : Duet) (side : Role) : Description.Masked :=
  (Description.mask (duet.phone side).streamNames ((duet.script side).description side)).1

/-- The two users can call each other, and their scripts make a connection possible. -/
structure Fits (duet : Duet) : Prop where
  apart : duet.user .offering ≠ duet.user .answering
  two : duet.members.length = 2
  members : ∀ side, duet.user side ∈ duet.members
  idle : ∀ side, (duet.phone side).call = none ∧ (duet.phone side).phase = .idle ∧
    (duet.phone side).roster = []
  unread : ∀ side, (duet.phone side).log = []
  /-- Nothing is missing for calls, in particular no microphone. -/
  capable : ∀ side, (duet.phone side).missing = []
  engine : ∀ side session, (duet.phone side).maker.make session = { script := duet.script side }
  connects : ∀ side, (duet.script side).connects = true
  words : ∀ side, Text.allBlank ((duet.script side).description side) = false
  compatible : Description.hasCompatibleAudio (duet.masked .offering).description = true
  /-- There is a way to reach the side that answers. -/
  reachable : (duet.script .answering).candidates ≠ [] ∨
    Description.hasInlineCandidates (duet.masked .answering).description = true
  /-- The sections that candidates name are numbered by words of 32 bits. -/
  numbered : ∀ side, ∀ candidate ∈ (duet.script side).candidates,
    candidate.sectionIndex < UInt32.size

/-- Each of the two is another user than the other. -/
theorem Fits.user_other_ne {duet : Duet} (fits : duet.Fits) (side : Role) :
    duet.user side.other ≠ duet.user side := by
  cases side with
  | offering => exact fits.apart.symm
  | answering => exact fits.apart

/-- A device with everything that waits at it. -/
structure Device where
  phone : Phone Scripted
  callbacks : List (SessionId × Engine.Callback) := []
  errands : List Errand := []
  /-- The number of requests for relay credentials that are under way. -/
  requests : Nat := 0
  /-- The events of the room that have not been delivered. -/
  inbox : List TimelineEvent := []

/-- Something happens to a device: its phone handles it, and what the phone writes to its log is put
into the queues. -/
def Device.meet (device : Device) (now : Instant) (occurrence : Occurrence) : Device :=
  let after := device.phone.after now occurrence
  { device with
    phone := { after with log := [] }
    callbacks := device.callbacks ++ Phone.callbacks after.log
    errands := device.errands ++ LogEntry.errands after.log }

/-- Both devices, what was sent so far, and whether the call was started. -/
structure State where
  device : Role → Device
  sent : List (RoomId × OutgoingSignal) := []
  started : Bool := false

/-- The state before the call. A phone that waits for relay credentials has asked for them. -/
def start (duet : Duet) : State where
  device side :=
    { phone := duet.phone side, requests := if (duet.phone side).refreshing then 1 else 0 }

namespace State

/-- The state with another device on a side. -/
def put (state : State) (side : Role) (device : Device) : State :=
  { state with device := fun other => if other = side then device else state.device other }

@[simp]
theorem device_put_self (state : State) (side : Role) (device : Device) :
    (state.put side device).device side = device := by
  simp [put]

@[simp]
theorem device_put_other (state : State) (side : Role) (device : Device) :
    (state.put side device).device side.other = state.device side.other := by
  cases side <;> simp [put, Role.other]

@[simp]
theorem put_put (state : State) (side : Role) (first second : Device) :
    (state.put side first).put side second = state.put side second := by
  unfold put
  congr 1
  funext other
  dsimp only
  split <;> rfl

/-- The state after an event was posted: both devices will hear it. -/
def post (state : State) (event : TimelineEvent) : State :=
  { state with
    device := fun side =>
      { state.device side with inbox := (state.device side).inbox ++ [event] } }

end State

/-- What the owner of a device does for it: events are posted under the name of its user, requests
for relay credentials are made, and timers are left alone. -/
def carryOut (duet : Duet) (state : State) (side : Role) (id : EventId) (now : Instant) :
    Errand → State
  | .send room signal =>
      let sent := { state with sent := state.sent ++ [(room, signal)] }
      if room = duet.room then
        sent.post ⟨id, signal.kind.eventType, duet.user side, now, signal.content⟩
      else
        sent
  | .refreshRelay =>
      state.put side { state.device side with requests := (state.device side).requests + 1 }
  | .armTimer _ _ | .cancelTimer => state

/-- Whether an event is delivered in time: an invite has to be fresh. -/
def Timely (phone : Phone Scripted) (now : Instant) (event : TimelineEvent) : Prop :=
  ∀ signal invite, Signal.ofEvent event = .ok signal → signal.message = .invite invite →
    phone.isStale now signal.sentAt invite = false

/-- A step of the two devices or of what is around them. -/
inductive Step (duet : Duet) (state : State) : State → Prop where
  /-- The one user starts the call. -/
  | start (now : Instant) (fresh : state.started = false) :
      Step duet state
        { state.put .offering ((state.device .offering).meet now
            (.startCall (duet.view .offering))) with started := true }
  /-- The other user accepts the call while it rings. -/
  | accept {call : Call Scripted} (now : Instant)
      (current : (state.device .answering).phone.call = some call)
      (rings : (state.device .answering).phone.phase = .incoming)
      (unaccepted : call.accepted = false) :
      Step duet state (state.put .answering ((state.device .answering).meet now .accept))
  /-- A callback is handed over. -/
  | callback (side : Role) {session : SessionId} {callback : Engine.Callback}
      {later : List (SessionId × Engine.Callback)} (now : Instant)
      (waits : (state.device side).callbacks = (session, callback) :: later) :
      Step duet state (state.put side
        (Device.meet { state.device side with callbacks := later } now
          (.callback session callback)))
  /-- An order is carried out. -/
  | carry (side : Role) {errand : Errand} {later : List Errand} (id : EventId) (now : Instant)
      (waits : (state.device side).errands = errand :: later) :
      Step duet state
        (duet.carryOut (state.put side { state.device side with errands := later }) side id now
          errand)
  /-- A request for relay credentials is over. -/
  | relay (side : Role) {rest : Nat} (now : Instant) (outcome : Except String Relay.Grant)
      (asked : (state.device side).requests = rest + 1) :
      Step duet state (state.put side
        (Device.meet { state.device side with requests := rest } now (.relayRefreshed outcome)))
  /-- An event of the room is delivered. -/
  | hear (side : Role) {event : TimelineEvent} {later : List TimelineEvent} (now : Instant)
      (waits : (state.device side).inbox = event :: later)
      (timely : side = .answering → Timely (state.device side).phone now event) :
      Step duet state (state.put side
        (Device.meet { state.device side with inbox := later } now
          (.event (duet.view side) event)))

/-- The states that every order of steps can lead to. -/
inductive Reached (duet : Duet) : State → Prop where
  | start : Reached duet duet.start
  | step {state next : State} (reached : Reached duet state) (step : duet.Step state next) :
      Reached duet next

/-- Nothing is left to be done: the call was started and accepted, and nothing waits. -/
structure State.Settled (state : State) : Prop where
  started : state.started = true
  answered : ∀ call, (state.device .answering).phone.call = some call →
    (state.device .answering).phone.phase = .incoming → call.accepted = true
  quiet : ∀ side, (state.device side).callbacks = [] ∧ (state.device side).errands = [] ∧
    (state.device side).requests = 0 ∧ (state.device side).inbox = []

/-- An event is in time for the instant at which it was posted. -/
theorem timely_sentAt (phone : Phone Scripted) (event : TimelineEvent) :
    Timely phone event.sentAt event := by
  intro signal invite carried message
  rcases Signal.ofEvent_eq_ok_iff.mp carried with ⟨_, _, _, _, rfl⟩
  simp [Phone.isStale, Instant.ago]

/-- A state from which no step is possible is settled. -/
theorem settled_of_stuck {duet : Duet} {state : State} (stuck : ∀ next, ¬ duet.Step state next) :
    state.Settled := by
  refine ⟨?_, ?_, fun side => ⟨?_, ?_, ?_, ?_⟩⟩
  · cases started : state.started with
    | true => rfl
    | false => exact absurd (.start 0 started) (stuck _)
  · intro call current rings
    cases accepted : call.accepted with
    | true => rfl
    | false => exact absurd (.accept 0 current rings accepted) (stuck _)
  · cases waits : (state.device side).callbacks with
    | nil => rfl
    | cons entry later => exact absurd (.callback side 0 waits) (stuck _)
  · cases waits : (state.device side).errands with
    | nil => rfl
    | cons errand later => exact absurd (.carry side ⟨""⟩ 0 waits) (stuck _)
  · cases asked : (state.device side).requests with
    | zero => rfl
    | succ rest => exact absurd (.relay side 0 (.error "") asked) (stuck _)
  · cases waits : (state.device side).inbox with
    | nil => rfl
    | cons event later =>
        exact absurd (.hear side event.sentAt waits fun _ => timely_sentAt _ event) (stuck _)

/-! ## Schedules -/

/-- Whose turn it is, and what is done then. -/
inductive Turn where
  | start
  | accept
  | callback (side : Role)
  | carry (side : Role)
  | relay (side : Role) (outcome : Except String Relay.Grant)
  | hear (side : Role)

/-- The state after a turn, if there is something to be done. Events are delivered at once. -/
def turn? (duet : Duet) (now : Instant) (state : State) : Turn → Option State
  | .start =>
      if state.started = false then
        some { state.put .offering ((state.device .offering).meet now
          (.startCall (duet.view .offering))) with started := true }
      else
        none
  | .accept =>
      match (state.device .answering).phone.call with
      | some call =>
          if (state.device .answering).phone.phase = .incoming ∧ call.accepted = false then
            some (state.put .answering ((state.device .answering).meet now .accept))
          else
            none
      | none => none
  | .callback side =>
      match (state.device side).callbacks with
      | (session, callback) :: later =>
          some (state.put side (Device.meet { state.device side with callbacks := later } now
            (.callback session callback)))
      | [] => none
  | .carry side =>
      match (state.device side).errands with
      | errand :: later =>
          some (duet.carryOut (state.put side { state.device side with errands := later }) side
            ⟨""⟩ now errand)
      | [] => none
  | .relay side outcome =>
      match (state.device side).requests with
      | rest + 1 =>
          some (state.put side (Device.meet { state.device side with requests := rest } now
            (.relayRefreshed outcome)))
      | 0 => none
  | .hear side =>
      match (state.device side).inbox with
      | event :: later =>
          some (state.put side (Device.meet { state.device side with inbox := later } event.sentAt
            (.event (duet.view side) event)))
      | [] => none

theorem step_of_turn? {duet : Duet} {now : Instant} {state next : State} {turn : Turn}
    (taken : duet.turn? now state turn = some next) : duet.Step state next := by
  cases turn with
  | start =>
      simp only [turn?, Option.ite_none_right_eq_some, Option.some.injEq] at taken
      rcases taken with ⟨fresh, rfl⟩
      exact .start now fresh
  | accept =>
      simp only [turn?] at taken
      split at taken
      · rename_i call current
        simp only [Option.ite_none_right_eq_some, Option.some.injEq] at taken
        rcases taken with ⟨⟨rings, unaccepted⟩, rfl⟩
        exact .accept now current rings unaccepted
      · cases taken
  | callback side =>
      simp only [turn?] at taken
      split at taken
      · rename_i session callback later waits
        rcases Option.some.inj taken with rfl
        exact .callback side now waits
      · cases taken
  | carry side =>
      simp only [turn?] at taken
      split at taken
      · rename_i errand later waits
        rcases Option.some.inj taken with rfl
        exact .carry side ⟨""⟩ now waits
      · cases taken
  | relay side outcome =>
      simp only [turn?] at taken
      split at taken
      · rename_i rest asked
        rcases Option.some.inj taken with rfl
        exact .relay side now outcome asked
      · cases taken
  | hear side =>
      simp only [turn?] at taken
      split at taken
      · rename_i event later waits
        rcases Option.some.inj taken with rfl
        exact .hear side event.sentAt waits fun _ => timely_sentAt _ event
      · cases taken

/-- The state after some turns, if there is something to be done in each of them. -/
def follow? (duet : Duet) (state : State) : List (Instant × Turn) → Option State
  | [] => some state
  | (now, turn) :: later => (duet.turn? now state turn).bind fun next => duet.follow? next later

theorem reached_follow? {duet : Duet} {state last : State} (reached : duet.Reached state)
    {turns : List (Instant × Turn)} (followed : duet.follow? state turns = some last) :
    duet.Reached last := by
  induction turns generalizing state with
  | nil =>
      rcases Option.some.inj followed with rfl
      exact reached
  | cons entry later ih =>
      rcases Option.bind_eq_some_iff.mp followed with ⟨next, taken, followed⟩
      exact ih (reached.step (step_of_turn? taken)) followed

end Duet

end RoomCall
