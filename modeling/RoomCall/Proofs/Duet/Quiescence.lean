import RoomCall.Phone.Pump
import RoomCall.Proofs.Duet.Basic
import RoomCall.Proofs.Phone.Load

/-!
# Two devices come to rest

When nobody asks for anything, no timer runs out and no engine speaks up by itself, two devices with
scripted engines have only so much left to do. Whatever waits may be taken in any order: a callback is
handed over, an order carried out, a request for relay credentials completed, an event delivered.
Each of these uses up some of the load of the two devices, so every schedule ends, and it ends with
nothing left. The devices may be in any state, and their scripts may be any.
-/

namespace RoomCall

open Engine (Scripted)

/-- The most candidates that may follow a description of a phone's engine, or of its next one. -/
def Phone.width (phone : Phone Scripted) : Nat :=
  phone.negotiation?.elim 0 (fun negotiation => negotiation.engine.script.candidates.length) +
    (phone.maker.make phone.nextSession).script.candidates.length

theorem Phone.narrow_of_width {width : Nat} {phone : Phone Scripted}
    (within : phone.width ≤ width) : phone.Narrow width := by
  unfold Phone.width at within
  refine ⟨?_, ?_⟩
  · intro call negotiation current opened
    simp only [negotiation?, current, Option.bind_eq_bind, Option.bind_some, opened,
      Option.elim_some] at within
    exact Nat.le_trans (Nat.le_add_right _ _) within
  · intro _ _ _
    exact Nat.le_trans (Nat.le_add_left _ _) within

variable {width : Nat}

/-- The load of a callback that waits, whatever negotiation it belongs to. -/
def waitingLoad (width : Nat) (waiting : SessionId × Engine.Callback) : Nat :=
  waiting.2.load width

/-- A log holds callbacks and orders, and nothing else that weighs anything. -/
theorem LogEntry.loads_eq (entries : List LogEntry) :
    loads width entries = ((Phone.callbacks entries).map (waitingLoad width)).sum +
      ((errands entries).map (Errand.load width)).sum := by
  induction entries with
  | nil => rfl
  | cons entry later ih =>
      rw [loads_cons, ih]
      cases entry with
      | errand content =>
          simp [load, Phone.callbacks, errands]
          omega
      | announcement content => simp [load, Phone.callbacks, errands]
      | traffic session content =>
          cases content with
          | request content => simp [load, Traffic.load, Phone.callbacks, errands]
          | callback content =>
              simp [load, Traffic.load, Phone.callbacks, errands, waitingLoad]
              omega

/-! ## The pump -/

namespace PumpedPhone

/-- The load of a phone with the callbacks that wait for it. -/
def load (width : Nat) (pumped : PumpedPhone Scripted) : Nat :=
  pumped.phone.load width + (pumped.queue.map (waitingLoad width)).sum

/-- Gathering moves callbacks from the log into the queue. -/
theorem load_gather (pumped : PumpedPhone Scripted) :
    pumped.gather.load width ≤ pumped.load width := by
  simp only [gather, Phone.takeLog, load, Phone.load, LogEntry.loads_eq, List.map_append,
    List.sum_append, Phone.callbacks, LogEntry.errands, List.filterMap_nil, List.map_nil,
    List.sum_nil]
  omega

/-- The round in which a pump hands over the first callback of its queue. -/
def round (pumped : PumpedPhone Scripted) (now : Instant) (session : SessionId)
    (callback : Engine.Callback) (later : List (SessionId × Engine.Callback)) :
    PumpedPhone Scripted :=
  gather { pumped with
    phone := pumped.phone.after now (.callback session callback)
    queue := later
    count := pumped.count + 1 }

/-- A callback that is handed over uses up its load. -/
theorem load_round {pumped : PumpedPhone Scripted} (narrow : pumped.phone.Narrow width)
    {session : SessionId} {callback : Engine.Callback}
    {later : List (SessionId × Engine.Callback)} (now : Instant)
    (waits : pumped.queue = (session, callback) :: later) :
    (pumped.round now session callback later).phone.Narrow width ∧
      (pumped.round now session callback later).load width < pumped.load width := by
  obtain ⟨stillNarrow, spent⟩ := pumped.phone.spends_hearEngine session callback narrow
  refine ⟨⟨stillNarrow.current, stillNarrow.next⟩, Nat.lt_of_le_of_lt (load_gather _) ?_⟩
  have heard : pumped.phone.after now (.callback session callback) =
    pumped.phone.hearEngine session callback := rfl
  simp only [load, waits, List.map_cons, List.sum_cons, waitingLoad, heard]
  omega

/-- A pump that may hand over as many callbacks as the load empties the queue. -/
theorem queue_pump (now : Instant) (limit : Nat) {pumped : PumpedPhone Scripted}
    (narrow : pumped.phone.Narrow width) (within : pumped.load width ≤ limit) :
    (pumped.pump now limit).queue = [] := by
  induction limit generalizing pumped with
  | zero =>
      cases waits : pumped.queue with
      | nil => exact waits
      | cons waiting later =>
          obtain ⟨_, round⟩ := load_round narrow now waits
          omega
  | succ limit ih =>
      cases waits : pumped.queue with
      | nil =>
          simp only [pump, waits]
      | cons waiting later =>
          obtain ⟨stillNarrow, round⟩ := load_round narrow now waits
          simp only [pump, waits]
          exact ih stillNarrow (Nat.le_of_lt_succ (Nat.lt_of_lt_of_le round within))

/-- A pump that has emptied the queue has nothing more to hand over. -/
theorem pump_of_queue_pump (now : Instant) (limit more : Nat) {pumped : PumpedPhone Scripted}
    (emptied : (pumped.pump now limit).queue = []) :
    pumped.pump now (limit + more) = pumped.pump now limit := by
  induction limit generalizing pumped with
  | zero =>
      cases more with
      | zero => rfl
      | succ more =>
          have empty : pumped.queue = [] := emptied
          rw [Nat.zero_add]
          simp only [pump, empty]
  | succ limit ih =>
      rw [Nat.succ_add]
      cases waits : pumped.queue with
      | nil => simp only [pump, waits]
      | cons waiting later =>
          simp only [pump, waits] at emptied ⊢
          exact ih emptied

end PumpedPhone

namespace Duet

variable {duet : Duet} {state next last : State}

/-! ## Devices -/

/-- The load of a device: its phone and everything that waits at it. -/
def Device.load (width : Nat) (device : Device) : Nat :=
  device.phone.load width + (device.callbacks.map (waitingLoad width)).sum +
    (device.errands.map (Errand.load width)).sum + device.requests +
      (device.inbox.map (TimelineEvent.load width)).sum

/-- What a phone writes to its log waits at the device. -/
theorem Device.load_meet (device : Device) (now : Instant) (occurrence : Occurrence) :
    (device.meet now occurrence).load width + device.phone.load width =
      device.load width + (device.phone.after now occurrence).load width := by
  have log : LogEntry.loads width (device.phone.after now occurrence).log = _ :=
    LogEntry.loads_eq _
  simp only [meet, load, Phone.load, LogEntry.loads_nil, List.map_append, List.sum_append, log]
  omega

theorem Device.narrow_meet {device : Device} {now : Instant} {occurrence : Occurrence}
    (narrow : (device.phone.after now occurrence).Narrow width) :
    (device.meet now occurrence).phone.Narrow width :=
  ⟨narrow.current, narrow.next⟩

/-- Both phones have engines with few candidates. -/
def State.Narrow (width : Nat) (state : State) : Prop :=
  ∀ side, (state.device side).phone.Narrow width

/-- The load of both devices. -/
def State.load (width : Nat) (state : State) : Nat :=
  (state.device .offering).load width + (state.device .answering).load width

theorem State.exists_narrow (state : State) : ∃ width, state.Narrow width := by
  refine ⟨(state.device .offering).phone.width + (state.device .answering).phone.width, ?_⟩
  intro side
  apply Phone.narrow_of_width
  cases side
  · exact Nat.le_add_right _ _
  · exact Nat.le_add_left _ _

theorem State.load_put (state : State) (side : Role) (device : Device) :
    (state.put side device).load width + (state.device side).load width =
      state.load width + device.load width := by
  cases side <;> simp [load, put] <;> omega

theorem State.narrow_put {side : Role} {device : Device} (narrow : state.Narrow width)
    (same : device.phone.Narrow width) : (state.put side device).Narrow width := by
  intro other
  unfold put
  dsimp only
  split
  · exact same
  · exact narrow other

theorem State.load_post (state : State) (event : TimelineEvent) :
    (state.post event).load width = state.load width + 2 * event.load width := by
  simp [load, post, Device.load]
  omega

/-- Carrying out an order uses up its load. -/
theorem load_carryOut (duet : Duet) (state : State) (side : Role) (id : EventId) (now : Instant)
    (errand : Errand) :
    (duet.carryOut state side id now errand).load width <
      state.load width + errand.load width := by
  cases errand with
  | send room signal =>
      have noted : State.load width { state with sent := state.sent ++ [(room, signal)] } =
          state.load width := rfl
      simp only [carryOut, Errand.load]
      split
      · rw [State.load_post, TimelineEvent.load_posted, noted]
        omega
      · rw [noted]
        omega
  | refreshRelay =>
      have asked : (duet.carryOut state side id now .refreshRelay).load width + _ =
          state.load width + _ := state.load_put side _
      simp only [Device.load] at asked
      simp only [Errand.load]
      omega
  | armTimer | cancelTimer => exact Nat.lt_succ_self _

theorem narrow_carryOut {side : Role} {id : EventId} {now : Instant} {errand : Errand}
    (narrow : state.Narrow width) : (duet.carryOut state side id now errand).Narrow width := by
  cases errand with
  | send room signal =>
      unfold carryOut
      dsimp only
      split <;> exact narrow
  | refreshRelay => exact State.narrow_put narrow (narrow side)
  | armTimer | cancelTimer => exact narrow

/-! ## Schedules -/

/-- A step by which one of two devices does something that waits there. What it is may be chosen
freely, and so may the instant and the outcome of a request. -/
inductive Drain (duet : Duet) (state : State) : State → Prop where
  /-- A callback is handed over. -/
  | callback (side : Role) {earlier later : List (SessionId × Engine.Callback)}
      {session : SessionId} {callback : Engine.Callback} (now : Instant)
      (waits : (state.device side).callbacks = earlier ++ (session, callback) :: later) :
      Drain duet state (state.put side
        (Device.meet { state.device side with callbacks := earlier ++ later } now
          (.callback session callback)))
  /-- An order is carried out. -/
  | carry (side : Role) {earlier later : List Errand} {errand : Errand} (id : EventId)
      (now : Instant) (waits : (state.device side).errands = earlier ++ errand :: later) :
      Drain duet state
        (duet.carryOut (state.put side { state.device side with errands := earlier ++ later }) side
          id now errand)
  /-- A request for relay credentials is over. -/
  | relay (side : Role) {rest : Nat} (now : Instant) (outcome : Except String Relay.Grant)
      (asked : (state.device side).requests = rest + 1) :
      Drain duet state (state.put side
        (Device.meet { state.device side with requests := rest } now (.relayRefreshed outcome)))
  /-- An event of the room is delivered. -/
  | hear (side : Role) {earlier later : List TimelineEvent} {event : TimelineEvent} (now : Instant)
      (waits : (state.device side).inbox = earlier ++ event :: later) :
      Drain duet state (state.put side
        (Device.meet { state.device side with inbox := earlier ++ later } now
          (.event (duet.view side) event)))

/-- A schedule of some number of steps. -/
inductive Drained (duet : Duet) (state : State) : Nat → State → Prop where
  | start : Drained duet state 0 state
  | step {steps : Nat} {last next : State} (drained : Drained duet state steps last)
      (drain : duet.Drain last next) : Drained duet state (steps + 1) next

/-- Nothing waits at either device. -/
def State.Quiet (state : State) : Prop :=
  ∀ side, (state.device side).callbacks = [] ∧ (state.device side).errands = [] ∧
    (state.device side).requests = 0 ∧ (state.device side).inbox = []

/-- A device that takes something up and hears it spends its load. -/
theorem spends_meet {side : Role} {device : Device} {now : Instant} {occurrence : Occurrence}
    {load : Nat} (narrow : state.Narrow width) (phone : device.phone = (state.device side).phone)
    (taken : (state.device side).load width = device.load width + load)
    (spends : Phone.Spends width load device.phone (device.phone.after now occurrence)) :
    (state.put side (device.meet now occurrence)).Narrow width ∧
      (state.put side (device.meet now occurrence)).load width < state.load width := by
  obtain ⟨stillNarrow, spent⟩ := spends (phone ▸ narrow side)
  refine ⟨State.narrow_put narrow (Device.narrow_meet stillNarrow), ?_⟩
  have met : (device.meet now occurrence).load width + device.phone.load width =
      device.load width + (device.phone.after now occurrence).load width :=
    device.load_meet now occurrence
  have changed : (state.put side (device.meet now occurrence)).load width +
      (state.device side).load width =
        state.load width + (device.meet now occurrence).load width :=
    state.load_put side _
  omega

/-- Every step uses up some of the load. -/
theorem load_drain (narrow : state.Narrow width) (drain : duet.Drain state next) :
    next.Narrow width ∧ next.load width < state.load width := by
  -- Whatever is taken from the middle of a queue takes its load with it.
  cases drain with
  | callback side now waits =>
      refine spends_meet narrow rfl ?_ (Phone.spends_hearEngine _ _ _)
      simp only [Device.load, waits, List.map_append, List.map_cons, List.sum_append,
        List.sum_cons, waitingLoad]
      omega
  | @carry side earlier later errand id now waits =>
      have taken : (state.device side).load width =
          Device.load width { state.device side with errands := earlier ++ later } +
            errand.load width := by
        simp only [Device.load, waits, List.map_append, List.map_cons, List.sum_append,
          List.sum_cons]
        omega
      have changed : (state.put side { state.device side with errands := earlier ++ later }).load
          width + (state.device side).load width = state.load width + _ := state.load_put side _
      have carried : (duet.carryOut (state.put side { state.device side with
          errands := earlier ++ later }) side id now errand).load width < _ :=
        duet.load_carryOut _ side id now errand
      exact ⟨narrow_carryOut (State.narrow_put narrow (narrow side)), by omega⟩
  | relay side now outcome asked =>
      refine spends_meet narrow rfl ?_
        ((Phone.costs_relayRefreshed _ now outcome).spends Nat.zero_lt_one)
      simp only [Device.load, asked]
      omega
  | hear side now waits =>
      refine spends_meet narrow rfl ?_ (Phone.spends_hearEvent _ now _ _)
      simp only [Device.load, waits, List.map_append, List.map_cons, List.sum_append,
        List.sum_cons]
      omega

/-- A schedule has no more steps than the load allows. -/
theorem load_drained {steps : Nat} (narrow : state.Narrow width)
    (drained : duet.Drained state steps last) :
    last.Narrow width ∧ last.load width + steps ≤ state.load width := by
  induction drained with
  | start => exact ⟨narrow, Nat.le_refl _⟩
  | step drained drain ih =>
      obtain ⟨stillNarrow, within⟩ := ih
      obtain ⟨narrowAtLast, less⟩ := load_drain stillNarrow drain
      exact ⟨narrowAtLast, by omega⟩

/-- Whatever waits can be taken up, so a schedule that cannot be continued has left nothing. -/
theorem quiet_or_drain (duet : Duet) (state : State) :
    state.Quiet ∨ ∃ next, duet.Drain state next := by
  have unskipped {α : Type} {queue later : List α} {first : α} (waits : queue = first :: later) :
      queue = [] ++ first :: later := waits
  by_cases stuck : ∃ next, duet.Drain state next
  · exact .inr stuck
  · refine .inl fun side => ⟨?_, ?_, ?_, ?_⟩
    · cases waits : (state.device side).callbacks with
      | nil => rfl
      | cons waiting later => exact absurd ⟨_, .callback side 0 (unskipped waits)⟩ stuck
    · cases waits : (state.device side).errands with
      | nil => rfl
      | cons errand later => exact absurd ⟨_, .carry side ⟨""⟩ 0 (unskipped waits)⟩ stuck
    · cases asked : (state.device side).requests with
      | zero => rfl
      | succ rest => exact absurd ⟨_, .relay side 0 (.error "") asked⟩ stuck
    · cases waits : (state.device side).inbox with
      | nil => rfl
      | cons event later => exact absurd ⟨_, .hear side 0 (unskipped waits)⟩ stuck

/-- Signaling comes to rest.

Two devices with scripted engines may be in any state. As long as nobody asks for anything, no timer
runs out and no engine speaks up by itself, the schedules of what waits at the devices have a
bounded number of steps, in whatever order things are taken up: there is no endless exchange of
descriptions or hangups. A schedule can be continued until nothing waits any more. A pump of the
callbacks of one phone, those included that are posted meanwhile, also comes to an end: some number
of callbacks empties the queue, and a pump that may hand over more does the same. -/
theorem quiesces :
    (∀ (duet : Duet) (state : State), ∃ bound, ∀ steps last, duet.Drained state steps last →
      steps ≤ bound ∧ (last.Quiet ∨ ∃ next, duet.Drain last next)) ∧
    ∀ (now : Instant) (pumped : PumpedPhone Scripted), ∃ limit,
      (pumped.pump now limit).queue = [] ∧
        ∀ more, pumped.pump now (limit + more) = pumped.pump now limit := by
  refine ⟨fun duet state => ?_, fun now pumped => ?_⟩
  · obtain ⟨width, narrow⟩ := state.exists_narrow
    refine ⟨state.load width, fun steps last drained => ⟨?_, duet.quiet_or_drain last⟩⟩
    obtain ⟨_, within⟩ := load_drained narrow drained
    exact Nat.le_trans (Nat.le_add_left _ _) within
  · have emptied := PumpedPhone.queue_pump now _
      (Phone.narrow_of_width (Nat.le_refl pumped.phone.width)) (Nat.le_refl _)
    exact ⟨_, emptied, fun more => PumpedPhone.pump_of_queue_pump now _ more emptied⟩

end Duet

end RoomCall
