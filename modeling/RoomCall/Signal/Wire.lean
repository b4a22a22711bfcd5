import RoomCall.Signal.Basic
import RoomCall.Description.Kind

/-!
# The wire forms of messages

The content of a call event carries more than a message keeps: capabilities, a protocol version and
the side a description belongs to. Each form is read leniently, with a value for what may be
missing, and written back in full, so that writing what was read loses nothing but unknown
members.
-/

namespace RoomCall.Wire

/-- The protocol version of an event. Early versions are numbers, later ones texts. -/
inductive Version where
  | number (value : Nat)
  | text (value : String)
  deriving DecidableEq, Inhabited, Repr

namespace Version

/-- The version of an event that names none. -/
def unnamed : Version := .number 0

def ofJson? : Json → Option Version
  | .string value => some (.text value)
  | value => (Json.word64? value).map .number

def toJson : Version → Json
  | .number value => .ofNat value
  | .text value => .string value

end Version

/-- A description with the side it belongs to. -/
structure SessionDescription where
  description : String
  kind : DescriptionKind
  deriving DecidableEq, Inhabited, Repr

namespace SessionDescription

def ofJson? (value : Json) : Option SessionDescription := do
  let fields ← Json.fields? ["sdp", "type"] value
  let description ← fields.required "sdp" Json.text?
  let kind ← fields.required "type" DescriptionKind.ofJson?
  return ⟨description, kind⟩

def toJson (content : SessionDescription) : Json :=
  Json.ofMembers [("sdp", .string content.description), ("type", content.kind.toJson)]

end SessionDescription

/-- The key under which the purposes of streams are found. -/
def purposesKey : String := "org.matrix.msc3077.sdp_stream_metadata"

/-- Reads the purpose of one stream. -/
def purpose? (value : Json) : Option String := do
  let fields ← Json.fields? ["purpose"] value
  fields.required "purpose" Json.text?

/-- The wire form of the purposes of streams. -/
def purposesToJson (purposes : Purposes) : Json :=
  .object (purposes.map fun (stream, purpose) => (stream, .object [("purpose", .string purpose)]))

/-- A field for a party that may be missing or null. -/
def party? (fields : Json.Fields) : Option (Option PartyId) :=
  fields.defaulted "party_id" (Json.nullable? PartyId.ofJson?) none

/-- A field for a version. -/
def version? (fields : Json.Fields) : Option Version :=
  fields.defaulted "version" Version.ofJson? .unnamed

/-- A field for the purposes of streams. -/
def purposes? (fields : Json.Fields) : Option Purposes :=
  fields.defaulted purposesKey (Json.table? purpose?) []

/-- A field for capabilities, of which nothing is known but their names. -/
def capabilities? (fields : Json.Fields) : Option (List (String × Json)) :=
  fields.defaulted "capabilities" Json.members? []

/-- A party as a member that is left out where there is none. -/
def partyMember (party : Option PartyId) : List (String × Json) :=
  party.toList.map fun known => ("party_id", .string known.text)

/-- The content of an invite event. -/
structure Invite where
  call : CallId
  party : Option PartyId
  /-- Milliseconds that the invite stays valid. -/
  lifetime : Nat
  offer : SessionDescription
  capabilities : List (String × Json)
  version : Version
  purposes : Purposes

namespace Invite

def ofJson? (value : Json) : Option Invite := do
  let fields ← Json.fields?
    ["call_id", "party_id", "lifetime", "offer", "capabilities", "version", purposesKey] value
  let call ← fields.required "call_id" CallId.ofJson?
  let party ← party? fields
  let lifetime ← fields.required "lifetime" Json.word64?
  let offer ← fields.required "offer" SessionDescription.ofJson?
  let capabilities ← capabilities? fields
  let version ← version? fields
  let purposes ← purposes? fields
  return ⟨call, party, lifetime, offer, capabilities, version, purposes⟩

def toJson (content : Invite) : Json :=
  Json.ofMembers <|
    [("call_id", .string content.call.text)] ++ partyMember content.party ++
    [("lifetime", .ofNat content.lifetime), ("offer", content.offer.toJson),
      ("capabilities", .object content.capabilities), ("version", content.version.toJson),
      (purposesKey, purposesToJson content.purposes)]

end Invite

/-- The content of a candidates event. -/
structure Candidates where
  call : CallId
  party : Option PartyId
  candidates : List Candidate
  version : Version

namespace Candidates

def ofJson? (value : Json) : Option Candidates := do
  let fields ← Json.fields? ["call_id", "party_id", "candidates", "version"] value
  let call ← fields.required "call_id" CallId.ofJson?
  let party ← party? fields
  let candidates ← fields.defaulted "candidates" (Json.list? Candidate.ofJson?) []
  let version ← version? fields
  return ⟨call, party, candidates, version⟩

def toJson (content : Candidates) : Json :=
  Json.ofMembers <|
    [("call_id", .string content.call.text)] ++ partyMember content.party ++
    [("candidates", .array (content.candidates.map Candidate.toJson)),
      ("version", content.version.toJson)]

end Candidates

/-- The content of an answer event. -/
structure Answer where
  call : CallId
  party : Option PartyId
  answer : SessionDescription
  capabilities : List (String × Json)
  version : Version
  purposes : Purposes

namespace Answer

def ofJson? (value : Json) : Option Answer := do
  let fields ← Json.fields?
    ["call_id", "party_id", "answer", "capabilities", "version", purposesKey] value
  let call ← fields.required "call_id" CallId.ofJson?
  let party ← party? fields
  let answer ← fields.required "answer" SessionDescription.ofJson?
  let capabilities ← capabilities? fields
  let version ← version? fields
  let purposes ← purposes? fields
  return ⟨call, party, answer, capabilities, version, purposes⟩

def toJson (content : Answer) : Json :=
  Json.ofMembers <|
    [("call_id", .string content.call.text)] ++ partyMember content.party ++
    [("answer", content.answer.toJson), ("capabilities", .object content.capabilities),
      ("version", content.version.toJson), (purposesKey, purposesToJson content.purposes)]

end Answer

/-- The content of a negotiate event. -/
structure Negotiate where
  call : CallId
  party : Option PartyId
  /-- Milliseconds that the description stays valid. -/
  lifetime : Nat
  description : SessionDescription
  version : Version
  purposes : Purposes

namespace Negotiate

def ofJson? (value : Json) : Option Negotiate := do
  let fields ← Json.fields?
    ["call_id", "party_id", "lifetime", "description", "version", purposesKey] value
  let call ← fields.required "call_id" CallId.ofJson?
  let party ← party? fields
  let lifetime ← fields.defaulted "lifetime" Json.word64? 0
  let description ← fields.required "description" SessionDescription.ofJson?
  let version ← version? fields
  let purposes ← purposes? fields
  return ⟨call, party, lifetime, description, version, purposes⟩

def toJson (content : Negotiate) : Json :=
  Json.ofMembers <|
    [("call_id", .string content.call.text)] ++ partyMember content.party ++
    [("lifetime", .ofNat content.lifetime), ("description", content.description.toJson),
      ("version", content.version.toJson), (purposesKey, purposesToJson content.purposes)]

end Negotiate

/-- The content of a hangup event. -/
structure Hangup where
  call : CallId
  party : Option PartyId
  version : Version
  cause : Option HangupCause

namespace Hangup

def ofJson? (value : Json) : Option Hangup := do
  let fields ← Json.fields? ["call_id", "party_id", "version", "reason"] value
  let call ← fields.required "call_id" CallId.ofJson?
  let party ← party? fields
  let version ← version? fields
  let cause ← fields.defaulted "reason" (Json.nullable? HangupCause.ofJson?) none
  return ⟨call, party, version, cause⟩

def toJson (content : Hangup) : Json :=
  Json.ofMembers <|
    [("call_id", .string content.call.text)] ++ partyMember content.party ++
    [("version", content.version.toJson)] ++
    content.cause.toList.map fun cause => ("reason", cause.toJson)

end Hangup

end RoomCall.Wire
