import RoomCall.Ident

/-!
# Rooms and their events

A call takes place in a room with two members and is set up through events of the room's timeline.
-/

namespace RoomCall

/-- Who is in a room, seen by one of its members. -/
structure Membership where
  room : RoomId
  localUser : UserId
  members : List UserId
  deriving DecidableEq, Inhabited, Repr

namespace Membership

/-- Whether the room has exactly two members. -/
def isOneToOne (membership : Membership) : Bool :=
  membership.members.length == 2

/-- The first member other than the local user. -/
def otherUser? (membership : Membership) : Option UserId :=
  membership.members.find? fun member => member ≠ membership.localUser

end Membership

/-- An event of a room's timeline. -/
structure TimelineEvent where
  id : EventId
  type : String
  sender : UserId
  sentAt : Instant
  content : Json
  deriving Inhabited

namespace TimelineEvent

/-- Reads an instant of the calendar, given in milliseconds. -/
def instant? : Json → Option Instant
  | .integer value =>
      let instant := Instant.ofMilliseconds value
      if instant.isValid then some instant else none
  | _ => none

/-- Reads an event from its wire form. Its content may be any value, but has to be there. -/
def ofJson? (value : Json) : Option TimelineEvent := do
  let fields ← Json.fields? ["event_id", "type", "sender", "origin_server_ts", "content"] value
  let id ← fields.required "event_id" EventId.ofJson?
  let type ← fields.required "type" Json.text?
  let sender ← fields.required "sender" UserId.ofJson?
  let sentAt ← fields.required "origin_server_ts" instant?
  let content ← fields.required "content" some
  return ⟨id, type, sender, sentAt, content⟩

def toJson (event : TimelineEvent) : Json :=
  Json.ofMembers
    [("event_id", .string event.id.text), ("type", .string event.type),
      ("sender", .string event.sender.text), ("origin_server_ts", .integer event.sentAt.milliseconds),
      ("content", event.content)]

end TimelineEvent

end RoomCall
