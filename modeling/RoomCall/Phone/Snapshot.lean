import RoomCall.Phone.Basic

/-!
# A phone at a glance

A snapshot is what a user sees of a phone at one moment.
-/

namespace RoomCall

/-- What a user sees of a phone. -/
structure Snapshot where
  phase : Phase
  call : Option CallId
  room : Option RoomId
  remoteUser : Option UserId
  progress : Progress
  muted : Bool
  roster : Roster
  deriving DecidableEq, Repr

/-- The snapshot of a phone. -/
def Phone.snapshot {ε : Type} [MediaEngine ε] (phone : Phone ε) : Snapshot where
  phase := phone.phase
  call := phone.call.map Call.id
  room := phone.call.map Call.room
  remoteUser := phone.call.map Call.remoteUser
  progress := phone.progress
  muted := phone.isMuted
  roster := phone.roster

/-- The members of the wire form of a snapshot. -/
def Snapshot.members (snapshot : Snapshot) : List (String × Json) :=
  [("state", snapshot.phase.toJson),
    ("call_id", Json.ofText? (snapshot.call.map CallId.text)),
    ("room_id", Json.ofText? (snapshot.room.map RoomId.text)),
    ("remote_user", Json.ofText? (snapshot.remoteUser.map UserId.text)),
    ("session_state", snapshot.progress.toJson),
    ("muted", .boolean snapshot.muted),
    ("participants", .array (snapshot.roster.map Participant.toJson))]

def Snapshot.toJson (snapshot : Snapshot) : Json :=
  Json.ofMembers snapshot.members

end RoomCall
