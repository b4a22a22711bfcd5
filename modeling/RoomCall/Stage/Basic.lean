import RoomCall.Host.Run
import RoomCall.Timeline

/-!
# Several hosts in one room

A stage puts hosts around one timeline. Every event that is posted arrives at every host, also at
the one that sent it, unless the host is deaf.

Four workers serve each host: one turns it to its work, one sends what is in its outbox, one
fetches relay credentials for it, and one minds its timer. The stage knows which of them are ready
to work and which of them wait for a moment, each in the order in which they began to.
-/

namespace RoomCall

/-- A host with its place in the room. -/
structure Seat (ε : Type) where
  name : String
  host : Host ε
  line : Line
  membership : Membership
  /-- Whether no event reaches the host. -/
  deaf : Bool := false

/-- What there is to do at a seat. -/
inductive Duty where
  /-- The host turns to its work. -/
  | host
  /-- The events in the outbox are sent. -/
  | outbox
  /-- Relay credentials are fetched. -/
  | relay
  /-- The timer is minded. -/
  | timer
  deriving DecidableEq, Repr

/-- Who has a duty at the seat with a name. -/
structure Worker where
  seat : String
  duty : Duty
  deriving DecidableEq, Repr

/-- Hosts around a timeline. -/
structure Stage (ε : Type) where
  timeline : Timeline
  seats : List (Seat ε)
  /-- The instant of the calendar at which events are posted. -/
  now : Instant
  /-- Who has something to do, with the one in front who has been ready longest. -/
  ready : List Worker := []
  /-- Who waits for a moment, in the order in which they began to wait. -/
  asleep : List Worker := []

namespace Stage

variable {ε : Type}

/-- The instant of the calendar at which the hosts turn to their work. It is a little later than
the one at which events are posted, so nobody hears an event at the very instant it was posted. -/
def turningPoint (stage : Stage ε) : Instant :=
  stage.now.later ⟨1⟩

/-- An event reaches the host of a seat. -/
def deliver [MediaEngine ε] (event : TimelineEvent) (seat : Seat ε) : Seat ε :=
  if seat.deaf then seat
  else { seat with host := seat.host.move (.arrival seat.membership event) }

/-- The seat with a name. -/
def seat? (stage : Stage ε) (name : String) : Option (Seat ε) :=
  stage.seats.find? fun seat => seat.name = name

/-- Replaces a seat by the one with the same name. -/
def putSeat (stage : Stage ε) (seat : Seat ε) : Stage ε :=
  { stage with
    seats := stage.seats.map fun other => if other.name = seat.name then seat else other }

/-- Makes a worker ready who is not ready yet. -/
def rouse (stage : Stage ε) (worker : Worker) : Stage ε :=
  { stage with
    ready := if worker ∈ stage.ready then stage.ready else stage.ready ++ [worker]
    asleep := stage.asleep.erase worker }

/-- The stage after an event was posted: everybody who can hear hears it. -/
def spread [MediaEngine ε] (stage : Stage ε) (timeline : Timeline) (event : TimelineEvent) :
    Stage ε :=
  let heard := { stage with timeline := timeline, seats := stage.seats.map (deliver event) }
  (stage.seats.filter (!·.deaf)).foldl (fun stage seat => stage.rouse ⟨seat.name, .host⟩) heard

/-- Posts an event that comes from none of the hosts. -/
def post [MediaEngine ε] (stage : Stage ε) (sender : UserId) (type : String) (content : Json) :
    Stage ε × EventId :=
  let (timeline, event) := stage.timeline.post stage.now sender type content
  (stage.spread timeline event, event.id)

/-- Tells a host that a capture device was plugged in or went away. -/
def plug [MediaEngine ε] (stage : Stage ε) (name : String) (change : Hotplug) : Stage ε :=
  { stage with
    seats := stage.seats.map fun seat =>
      if seat.name = name then
        { seat with host := seat.host.move (.plug change) }
      else
        seat }

end Stage

end RoomCall
