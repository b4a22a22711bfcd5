import RoomCall.Stage.Basic

/-!
# Runs of a stage

A stage makes the moves of its hosts for them. Who has been ready longest works first, and works
until there is nothing left to do. When nobody is ready, time may pass up to the next moment at
which somebody has something to do; those who waited for the same moment are ready in the order in
which they began to wait.

Two hosts that react to each other might never come to rest, so settling takes no more than a
given number of steps.
-/

namespace RoomCall.Stage

variable {ε : Type}

/-- Whose duty it may be to deal with what a turn has led to. -/
def rousedBy (old new : Host ε) : List Duty :=
  (if (new.outbox.due? new.clock).isSome then [.outbox] else []) ++
    (if new.timer = old.timer then [] else [.timer]) ++
    (if 0 < new.relayRequests then [.relay] else [])

/-- Turns the host of a seat to its next piece of work. -/
def turn [MediaEngine ε] (stage : Stage ε) (seat : Seat ε) : Stage ε :=
  let host := seat.host.move (.turn stage.turningPoint)
  (rousedBy seat.host host).foldl (fun stage duty => stage.rouse ⟨seat.name, duty⟩)
    (stage.putSeat { seat with host := host })

/-- Sends the event that is due at a seat. -/
def dispatch [MediaEngine ε] (stage : Stage ε) (seat : Seat ε) (parcel : Parcel) : Stage ε :=
  let (timeline, outcome) :=
    seat.line.send stage.timeline stage.now parcel.room parcel.signal
  match outcome with
  | .ok event =>
      (stage.putSeat { seat with host := seat.host.move (.attempt true) }).spread timeline event
  | .error _ => stage.putSeat { seat with host := seat.host.move (.attempt false) }

/-- Answers a request for relay credentials at a seat. -/
def answerRelay [MediaEngine ε] (stage : Stage ε) (seat : Seat ε) : Stage ε :=
  let (line, outcome) := seat.line.requestRelay
  let host := seat.host.move (.relayAnswer (outcome.mapError LineError.message))
  (stage.putSeat { seat with line := line, host := host }).rouse ⟨seat.name, .host⟩

/-- Notes at a seat that the timer has run out. -/
def expire [MediaEngine ε] (stage : Stage ε) (seat : Seat ε) : Stage ε :=
  (stage.putSeat { seat with host := seat.host.move .expiry }).rouse ⟨seat.name, .host⟩

/-- Does a piece of what there is to do at a seat, if there is any. -/
def work? [MediaEngine ε] (stage : Stage ε) (seat : Seat ε) : Duty → Option (Stage ε)
  | .host => if seat.host.isAtRest then none else some (stage.turn seat)
  | .outbox => (seat.host.outbox.due? seat.host.clock).map (stage.dispatch seat)
  | .relay => if 0 < seat.host.relayRequests then some (stage.answerRelay seat) else none
  | .timer => if seat.host.dueTimer?.isSome then some (stage.expire seat) else none

/-- Whether a worker with nothing to do at a seat waits for a moment that is still to come. -/
def waits (seat : Seat ε) : Duty → Bool
  | .host | .relay => false
  | .outbox => seat.host.clock < seat.host.outbox.readyAt
  | .timer => seat.host.timer.any (seat.host.clock < ·.deadline)

/-- A step of the one who has been ready longest: does a piece of work, or is done. -/
def step? [MediaEngine ε] (stage : Stage ε) : Option (Stage ε) :=
  match stage.ready with
  | [] => none
  | worker :: later =>
      let left := { stage with ready := later }
      match stage.seat? worker.seat with
      | none => some left
      | some seat =>
          some <| (stage.work? seat worker.duty).getD <|
            if waits seat worker.duty then { left with asleep := left.asleep ++ [worker] }
            else left

/-- Takes steps until nobody is ready, but no more than `fuel` of them. -/
def settle [MediaEngine ε] : Nat → Stage ε → Stage ε
  | 0, stage => stage
  | fuel + 1, stage =>
      match stage.step? with
      | some next => settle fuel next
      | none => stage

/-- The steps that are taken before a stage is taken to be at rest. -/
def patience : Nat := 100000

/-- Makes everybody ready who need not wait any longer. -/
def rouseDue (stage : Stage ε) : Stage ε :=
  (stage.asleep.filter fun worker =>
    !(stage.seat? worker.seat).any (waits · worker.duty)).foldl rouse stage

/-- Lets time pass at every seat. -/
def pass [MediaEngine ε] (stage : Stage ε) (span : Nat) : Stage ε :=
  rouseDue { stage with
    seats := stage.seats.map fun seat => { seat with host := seat.host.move (.wait span) } }

/-- How long it takes until a host has something to do. -/
def untilNext? (stage : Stage ε) : Option Nat :=
  (stage.seats.filterMap fun seat =>
    seat.host.wake?.map (· - seat.host.clock)).min?

/-- Lets the hosts come to rest. -/
def rest [MediaEngine ε] (stage : Stage ε) : Stage ε :=
  settle patience stage

/-- Lets time pass, and stops on the way wherever a host has something to do. -/
def advance [MediaEngine ε] (span : Nat) (stage : Stage ε) : Stage ε :=
  match stage.untilNext? with
  | some next =>
      if 0 < next ∧ next ≤ span then advance (span - next) (stage.pass next).rest
      else stage.pass span
  | none => stage.pass span
termination_by span

/-- Lets time pass until a host that was told to shut down has stopped. -/
def awaitStop [MediaEngine ε] (name : String) : Nat → Stage ε → Stage ε
  | 0, stage => stage
  | fuel + 1, stage =>
      match (stage.seat? name).any (fun seat => seat.host.closing && !seat.host.isStopped),
          stage.untilNext? with
      | true, some next => awaitStop name fuel (stage.pass next).rest
      | _, _ => stage

/-- Looks at the seats with some names, one after the other. A host that was told to shut down is
seen when it has stopped, and what happens until then is seen at the seats that come later. What
has been seen is taken from the log. -/
def visit [MediaEngine ε] : List String → Stage ε → Stage ε × List (Seat ε)
  | [], stage => (stage, [])
  | name :: later, stage =>
      let waited := stage.awaitStop name patience
      match waited.seat? name with
      | none => visit later waited
      | some seat =>
          let (final, seen) :=
            visit later (waited.putSeat { seat with host := seat.host.takeLog.1 })
          (final, seat :: seen)

/-- Gives a command to a host, lets the hosts come to rest, and answers with the reply. There is
no stage without the seat; a host that has been told to shut down takes no commands. -/
def ask [MediaEngine ε] (stage : Stage ε) (name : String) (command : Command) :
    Option (Stage ε × Except HostError Reply) := do
  let seat ← stage.seat? name
  if seat.host.closing then
    return (stage, .error .stopped)
  let given := stage.putSeat { seat with host := seat.host.move (.command command) }
  let settled := (given.rouse ⟨name, .host⟩).rest
  let after ← settled.seat? name
  let known := (Host.replies seat.host.log).length
  match (Host.replies after.host.log)[known]? with
  | some outcome => return (settled, outcome.mapError .call)
  | none => return (settled, .ok .done)

end RoomCall.Stage
