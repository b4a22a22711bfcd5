import RoomCall.Json.Shape
import RoomCall.Text.Mark
import RoomCall.Text.Percent
import RoomCall.Time

/-!
# Relay credentials

Media that cannot flow directly goes through a TURN relay. The homeserver grants credentials for
its relays for some seconds. An engine wants them inside the relay URIs, and a cache remembers the
URIs and until when they hold.
-/

namespace RoomCall.Relay

/-- Credentials for a list of relays. -/
structure Grant where
  username : String := ""
  password : String := ""
  /-- Relay URIs, for example `turn:turn.example.org:3478?transport=udp`. -/
  uris : List String := []
  /-- Seconds that the credentials hold. -/
  lifetime : Nat := 0
  deriving DecidableEq, Inhabited, Repr

namespace Grant

/-- Reads a grant. Every part of it may be missing. -/
def ofJson? (value : Json) : Option Grant := do
  let fields ← Json.fields? ["username", "password", "uris", "ttl"] value
  let username ← fields.defaulted "username" Json.text? ""
  let password ← fields.defaulted "password" Json.text? ""
  let uris ← fields.defaulted "uris" (Json.list? Json.text?) []
  let lifetime ← fields.defaulted "ttl" Json.word64? 0
  return ⟨username, password, uris, lifetime⟩

def toJson (grant : Grant) : Json :=
  Json.ofMembers
    [("username", .string grant.username), ("password", .string grant.password),
      ("uris", .array (grant.uris.map Json.string)), ("ttl", .ofNat grant.lifetime)]

/-- A relay URI with the credentials inside. Only the schemes of relays are accepted. -/
def withCredentials? (grant : Grant) (uri : String) : Option String :=
  match Text.splitFirst? ':' uri.toList with
  | none => none
  | some (scheme, rest) =>
      if scheme = "turn".toList ∨ scheme = "turns".toList then
        some (String.ofList scheme ++ "://" ++ Text.percentEncode grant.username ++ ":" ++
          Text.percentEncode grant.password ++ "@" ++ String.ofList rest)
      else
        none

/-- The relay URIs of a grant with the credentials inside, without the URIs of anything else. -/
def credentialUris (grant : Grant) : List String :=
  grant.uris.filterMap grant.withCredentials?

/-- Until when a grant holds that is made at an instant. If the lifetime cannot be counted, or ends
beyond the calendar, that is the end of the calendar. -/
def expiry (grant : Grant) (now : Instant) : Instant :=
  (Duration.ofSeconds? grant.lifetime >>= now.later?).getD Instant.latest

end Grant

/-- The relay URIs that were granted last, and until when they hold. -/
structure Cache where
  uris : List String := []
  validUntil : Option Instant := none
  deriving DecidableEq, Inhabited, Repr

namespace Cache

/-- Whether the cached URIs still hold. -/
def isFresh (cache : Cache) (now : Instant) : Bool :=
  cache.validUntil.any (now < ·)

/-- The cache after a grant. -/
def update (cache : Cache) (grant : Grant) (now : Instant) : Cache :=
  { cache with
    uris := grant.credentialUris
    validUntil := some (grant.expiry now) }

end Cache

end RoomCall.Relay
