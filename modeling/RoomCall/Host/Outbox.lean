import RoomCall.Signal.Writing

/-!
# The outbox

Events leave a host in the order in which they were queued, one at a time, and each is tried once.
After a failure nothing is tried for a while, and the while grows with the number of failures in a
row up to a second.

Times are moments on the clock of timers, which has nothing to do with the calendar.
-/

namespace RoomCall

/-- Milliseconds on the clock of timers. -/
abbrev Moment := Nat

/-- The number of failures since the last success. -/
structure Backoff where
  failures : Nat := 0
  deriving DecidableEq, Inhabited, Repr

namespace Backoff

/-- The pause after the last of some failures in a row, in milliseconds. -/
def pause (backoff : Backoff) : Nat :=
  100 * min backoff.failures 10

/-- The count after one more try. -/
def after (backoff : Backoff) (delivered : Bool) : Backoff :=
  if delivered then ⟨0⟩ else ⟨backoff.failures + 1⟩

@[simp]
theorem pause_after_delivery (backoff : Backoff) : (backoff.after true).pause = 0 := rfl

end Backoff

/-- An event on its way to a room. -/
structure Parcel where
  room : RoomId
  signal : OutgoingSignal
  deriving Inhabited

/-- The events that wait to be sent. -/
structure Outbox where
  parcels : List Parcel := []
  backoff : Backoff := {}
  /-- Nothing is tried before this moment. -/
  readyAt : Moment := 0
  deriving Inhabited

namespace Outbox

/-- Queues an event. -/
def push (outbox : Outbox) (parcel : Parcel) : Outbox :=
  { outbox with parcels := outbox.parcels ++ [parcel] }

/-- The event to try at a moment. -/
def due? (outbox : Outbox) (clock : Moment) : Option Parcel :=
  if outbox.readyAt ≤ clock then outbox.parcels.head? else none

/-- The outbox after its first event was tried. -/
def tried (outbox : Outbox) (clock : Moment) (delivered : Bool) : Outbox :=
  let backoff := outbox.backoff.after delivered
  { parcels := outbox.parcels.tail, backoff := backoff, readyAt := clock + backoff.pause }

/-- Whether everything has been tried and the pause after it is over. -/
def isFlushed (outbox : Outbox) (clock : Moment) : Bool :=
  outbox.parcels.isEmpty && outbox.readyAt ≤ clock

end Outbox

end RoomCall
