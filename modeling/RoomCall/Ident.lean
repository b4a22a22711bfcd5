import RoomCall.Text.Mark
import RoomCall.Text.Quoted
import RoomCall.Json.Shape
import RoomCall.Time

/-!
# Identifiers

Users, rooms, events, calls and parties are named by texts, each with a type of its own so that
they cannot be mixed up. A party is one device of one user during one call. Reading an identifier
from JSON takes any text; only `UserId.parse` and `RoomId.parse` look at its form.
-/

namespace RoomCall

/-- Names a user, for example `@alice:example.org`. -/
structure UserId where
  text : String
  deriving DecidableEq, Inhabited, Repr

/-- Names a room, for example `!abcdef:example.org`. -/
structure RoomId where
  text : String
  deriving DecidableEq, Inhabited, Repr

/-- Names an event of a room. -/
structure EventId where
  text : String
  deriving DecidableEq, Inhabited, Repr

/-- Names a call attempt. -/
structure CallId where
  text : String
  deriving DecidableEq, Inhabited, Repr

/-- Names one device of one user taking part in a call. -/
structure PartyId where
  text : String
  deriving DecidableEq, Inhabited, Repr

/-- Why a text is not an identifier. -/
inductive IdentError where
  /-- The text does not start with the sign of its kind. -/
  | wrongSigil (text : String) (sigil : Char)
  /-- The text has no server, or nothing before it. -/
  | noServer (text : String)
  deriving DecidableEq, Repr

def IdentError.name : IdentError → String
  | .wrongSigil _ _ => "InvalidSigil"
  | .noServer _ => "MissingServerName"

def IdentError.message : IdentError → String
  | .wrongSigil text sigil =>
      "Identifier " ++ Text.quoted text ++ " must start with '" ++ sigil.toString ++ "'"
  | .noServer text => "Identifier " ++ Text.quoted text ++ " has no server name"

/-- Checks the form of an identifier: its sign, a local part, a colon and a server. The part up to
the first colon holds the sign and something more. -/
def checkIdent (sigil : Char) (text : String) : Except IdentError Unit :=
  if text.toList.head? ≠ some sigil then
    .error (.wrongSigil text sigil)
  else
    match Text.splitFirst? ':' text.toList with
    | some (_ :: _ :: _, _ :: _) => .ok ()
    | _ => .error (.noServer text)

/-- A user's name whose form has been checked. -/
def UserId.parse (text : String) : Except IdentError UserId :=
  (checkIdent '@' text).map fun _ => ⟨text⟩

/-- A room's name whose form has been checked. -/
def RoomId.parse (text : String) : Except IdentError RoomId :=
  (checkIdent '!' text).map fun _ => ⟨text⟩

/-- The name of a new call: the time it is made at and eight fresh characters. -/
def CallId.fresh (now : Instant) (token : String) : CallId :=
  ⟨Instant.stamp now ++ String.ofList ((token.toList.filter (· ≠ '-')).take 8)⟩

/-- Any text names a user. -/
def UserId.ofJson? (value : Json) : Option UserId := (Json.text? value).map UserId.mk

/-- Any text names a room. -/
def RoomId.ofJson? (value : Json) : Option RoomId := (Json.text? value).map RoomId.mk

/-- Any text names an event. -/
def EventId.ofJson? (value : Json) : Option EventId := (Json.text? value).map EventId.mk

/-- Any text names a call. -/
def CallId.ofJson? (value : Json) : Option CallId := (Json.text? value).map CallId.mk

/-- Any text names a party. -/
def PartyId.ofJson? (value : Json) : Option PartyId := (Json.text? value).map PartyId.mk

/-- Where a message comes from, seen from one device. -/
inductive Origin where
  /-- This device sent it. -/
  | thisDevice
  /-- Another device of the same user sent it. -/
  | otherOwnDevice
  /-- Another user sent it. -/
  | remote
  deriving DecidableEq, Repr

/-- The origin of a message. A message of the local user counts as another device's only if both
parties are known and differ. -/
def Origin.of (localUser : UserId) (localParty : Option PartyId) (sender : UserId)
    (party : Option PartyId) : Origin :=
  if sender ≠ localUser then
    .remote
  else
    match localParty, party with
    | some ours, some theirs => if ours ≠ theirs then .otherOwnDevice else .thisDevice
    | _, _ => .thisDevice

end RoomCall
