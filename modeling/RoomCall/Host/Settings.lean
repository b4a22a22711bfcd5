import RoomCall.Json.Reader
import RoomCall.Phone.Basic

/-!
# Settings of a host

A host is configured with the settings of its phone and with the room that its two channels have:
the one that hands out announcements and the one that takes commands. A channel without room
cannot carry anything, and there are limits to the room that one can have, so a host with such a
channel is refused.
-/

namespace RoomCall

/-- The settings of a host. -/
structure HostSettings where
  phone : PhoneSettings := {}
  announcementCapacity : Nat := 1000
  commandCapacity : Nat := 64
  deriving DecidableEq, Inhabited, Repr

/-- Why a host cannot be had or does not do what it is asked for. -/
inductive HostError where
  /-- A channel has no room. -/
  | noCapacity
  /-- A channel is to have more room than there can be. -/
  | excessCapacity
  /-- The host has been shut down. -/
  | stopped
  /-- The phone refused. -/
  | call (error : PhoneError)
  deriving DecidableEq, Repr

/-- The name of a host's failure; a refusal of the phone keeps its name. -/
def HostError.name : HostError → String
  | .noCapacity => "InitError"
  | .excessCapacity => "ExcessCapacity"
  | .stopped => "Stopped"
  | .call error => error.name

def HostError.message : HostError → String
  | .noCapacity => "Initialization error: channel capacity must be positive"
  | .excessCapacity => "no channel can have that much room"
  | .stopped => "Call service stopped"
  | .call error => "Call error: " ++ error.message

namespace HostSettings

/-- The names of the settings, in order. -/
def names : List String :=
  ["manager", "event_channel_capacity", "command_channel_capacity"]

/-- Reads settings, with a usual value for each that is missing. -/
def ofJson? (value : Json) : Option HostSettings := do
  let usual : HostSettings := {}
  let fields ← Json.fields? names value
  let phone ← fields.defaulted "manager" PhoneSettings.ofJson? usual.phone
  let announcementCapacity ←
    fields.defaulted "event_channel_capacity" Json.word64? usual.announcementCapacity
  let commandCapacity ←
    fields.defaulted "command_channel_capacity" Json.word64? usual.commandCapacity
  return ⟨phone, announcementCapacity, commandCapacity⟩

/-- The settings as an object, in the order of their names. -/
def toJson (settings : HostSettings) : Json :=
  .object
    [("manager", settings.phone.toJson),
      ("event_channel_capacity", .ofNat settings.announcementCapacity),
      ("command_channel_capacity", .ofNat settings.commandCapacity)]

/-- Whether an object gives a setting twice. -/
def repeats (names : List String) : Json → Bool
  | .object members =>
      names.any fun name => 1 < (members.filter fun member => member.1 == name).length
  | _ => false

/-- Whether settings, or the settings of the phone in them, give one of them twice. -/
def isAmbiguous (value : Json) : Bool :=
  repeats names value ||
    match Json.fields? names value with
    | some fields => (fields.value? "manager").any (repeats PhoneSettings.names)
    | none => false

/-- What is picked from the tree of settings, and from the tree of a phone's settings in it. -/
def picks : Json.Tree.Picks :=
  let ofPhone := PhoneSettings.names.map fun name => (name, Json.Tree.value?)
  [("manager", Json.Tree.pick? ofPhone), ("event_channel_capacity", Json.Tree.value?),
    ("command_channel_capacity", Json.Tree.value?)]

/-- Reads settings from a text. What is given has to be given once; what is not known is passed
over, whether or not it has a value. -/
def ofText? (text : String) : Option HostSettings := do
  let tree ← Json.tree? text
  let value ← tree.pick? picks
  if isAmbiguous value then none else ofJson? value

/-- Whether both channels have room. -/
def isUsable (settings : HostSettings) : Bool :=
  settings.announcementCapacity ≠ 0 && settings.commandCapacity ≠ 0

/-- The room that a channel for announcements can have. It holds a place ready for each of them,
and the places together have to fit the address space. -/
def maximalAnnouncements : Nat := 1 <<< 56

/-- The room that a channel for commands can have. It only counts its places, in a word that has
three bits of other use. -/
def maximalCommands : Nat := 1 <<< 61 - 1

/-- Whether there can be channels with that much room. -/
def isPossible (settings : HostSettings) : Bool :=
  settings.announcementCapacity ≤ maximalAnnouncements &&
    settings.commandCapacity ≤ maximalCommands

end HostSettings

end RoomCall
