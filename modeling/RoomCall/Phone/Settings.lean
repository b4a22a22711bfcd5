import RoomCall.Json.Shape
import RoomCall.Time

/-!
# Settings of a phone

Every setting may be left out of a configuration. Times are given in milliseconds.
-/

namespace RoomCall

/-- The settings of a phone. -/
structure PhoneSettings where
  /-- How long an invite of this phone stays valid, in milliseconds. -/
  inviteLifetime : Nat := 60000
  /-- Invites older than this do not ring, in milliseconds. -/
  staleInviteAge : Nat := 60000
  /-- The protocol version of outgoing events. -/
  version : String := "1"
  /-- The purpose announced for the local streams. -/
  streamPurpose : String := "m.usermedia"
  /-- Whether calls can only be started with a microphone. -/
  requireMicrophone : Bool := true
  /-- The name of the preferred microphone. -/
  microphone : Option String := none
  /-- The name of the preferred camera. Calls have video only if there is one. -/
  camera : Option String := none
  deriving DecidableEq, Inhabited, Repr

namespace PhoneSettings

/-- The names of the settings, in order. -/
def names : List String :=
  ["invite_lifetime_ms", "stale_invite_age_ms", "call_version", "stream_purpose",
    "require_microphone", "microphone", "camera"]

/-- Reads settings, with a usual value for each that is missing. -/
def ofJson? (value : Json) : Option PhoneSettings := do
  let usual : PhoneSettings := {}
  let fields ← Json.fields? names value
  let inviteLifetime ← fields.defaulted "invite_lifetime_ms" Json.word64? usual.inviteLifetime
  let staleInviteAge ← fields.defaulted "stale_invite_age_ms" Json.word64? usual.staleInviteAge
  let version ← fields.defaulted "call_version" Json.text? usual.version
  let streamPurpose ← fields.defaulted "stream_purpose" Json.text? usual.streamPurpose
  let requireMicrophone ←
    fields.defaulted "require_microphone" Json.boolean? usual.requireMicrophone
  let microphone ← fields.defaulted "microphone" (Json.nullable? Json.text?) usual.microphone
  let camera ← fields.defaulted "camera" (Json.nullable? Json.text?) usual.camera
  return ⟨inviteLifetime, staleInviteAge, version, streamPurpose, requireMicrophone, microphone,
    camera⟩

/-- The settings as an object, in the order of their names. -/
def toJson (settings : PhoneSettings) : Json :=
  .object
    [("invite_lifetime_ms", .ofNat settings.inviteLifetime),
      ("stale_invite_age_ms", .ofNat settings.staleInviteAge),
      ("call_version", .string settings.version),
      ("stream_purpose", .string settings.streamPurpose),
      ("require_microphone", .boolean settings.requireMicrophone),
      ("microphone", Json.ofText? settings.microphone),
      ("camera", Json.ofText? settings.camera)]

end PhoneSettings

end RoomCall
