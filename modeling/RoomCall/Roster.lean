import RoomCall.Ident

/-!
# The people in a call

The roster lists the people in a call in the order in which they were added, each once, and
whether video arrives from them.
-/

namespace RoomCall

/-- A person in a call. -/
structure Participant where
  user : UserId
  hasCamera : Bool
  deriving DecidableEq, Inhabited, Repr

def Participant.toJson (participant : Participant) : Json :=
  Json.ofMembers
    [("user", .string participant.user.text), ("has_camera", .boolean participant.hasCamera)]

/-- The people in a call. -/
abbrev Roster := List Participant

namespace Roster

/-- The participant for a user. -/
def find? (roster : Roster) (user : UserId) : Option Participant :=
  List.find? (fun participant => participant.user = user) roster

/-- Whether a user takes part. -/
def contains (roster : Roster) (user : UserId) : Bool :=
  roster.any fun participant => participant.user = user

/-- The roster with one more user, unless the user is in it. -/
def add (roster : Roster) (user : UserId) : Roster :=
  if roster.contains user then roster else roster ++ [⟨user, false⟩]

/-- The roster with several more users, added in turn. -/
def addAll (roster : Roster) (users : List UserId) : Roster :=
  users.foldl add roster

/-- The roster that says whether video arrives from a user. -/
def setCamera (roster : Roster) (user : UserId) (hasCamera : Bool) : Roster :=
  roster.map fun participant =>
    if participant.user = user then { participant with hasCamera := hasCamera } else participant

end Roster

end RoomCall
