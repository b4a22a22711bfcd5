import RoomCall.Relay
import RoomCall.Room
import RoomCall.Signal.Writing

/-!
# Timelines and lines

A timeline is the list of all events of one room, oldest first. A line connects one user to a
timeline: it posts events under the user's name, and it asks for relay credentials, which it has
from the start or not at all. A line reaches no room but that of its timeline.
-/

namespace RoomCall

/-- A room with all events posted into it, oldest first. -/
structure Timeline where
  room : RoomId
  history : List TimelineEvent := []
  deriving Inhabited

namespace Timeline

/-- The name of the next event: its place in the history, counted from one. -/
def nextId (timeline : Timeline) : EventId :=
  ⟨"$" ++ toString (timeline.history.length + 1)⟩

/-- Posts an event under the name of a user. -/
def post (timeline : Timeline) (now : Instant) (sender : UserId) (type : String)
    (content : Json) : Timeline × TimelineEvent :=
  let event : TimelineEvent := ⟨timeline.nextId, type, sender, now, content⟩
  ({ timeline with history := timeline.history ++ [event] }, event)

end Timeline

/-- Why a line could not do what it was asked for. -/
inductive LineError where
  /-- The line does not reach a room. -/
  | notJoined (room : RoomId)
  /-- The line has no relay credentials to give. -/
  | noRelay
  deriving DecidableEq, Repr

def LineError.name : LineError → String
  | .notJoined _ => "TransportError"
  | .noRelay => "TurnUnavailable"

def LineError.message : LineError → String
  | .notJoined room => "Transport error: not joined to " ++ room.text
  | .noRelay => "TURN servers unavailable: not configured"

/-- The connection of one user to a timeline. -/
structure Line where
  user : UserId
  grant : Option Relay.Grant := none
  /-- How often relay credentials have been asked for. -/
  relayRequests : Nat := 0
  deriving DecidableEq, Inhabited, Repr

namespace Line

/-- Sends an event into a room. -/
def send (line : Line) (timeline : Timeline) (now : Instant) (room : RoomId)
    (signal : OutgoingSignal) : Timeline × Except LineError TimelineEvent :=
  if room = timeline.room then
    let (posted, event) := timeline.post now line.user signal.kind.eventType signal.content
    (posted, .ok event)
  else
    (timeline, .error (.notJoined room))

/-- Asks for relay credentials. -/
def requestRelay (line : Line) : Line × Except LineError Relay.Grant :=
  ({ line with relayRequests := line.relayRequests + 1 },
    match line.grant with
    | some grant => .ok grant
    | none => .error .noRelay)

end Line

end RoomCall
