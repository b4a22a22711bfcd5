import RoomCall.Signal.Wire
import RoomCall.Description.Streams

/-!
# From messages to events

Outgoing messages name this device's party and carry its protocol version. A description leaves
the device only with its stream names masked, together with the purpose of every stream.
-/

namespace RoomCall

/-- An event that is ready to be sent. -/
structure OutgoingSignal where
  kind : SignalKind
  content : Json
  /-- The fresh names of the streams that the event announces. -/
  streams : List String
  deriving Inhabited

/-- What all messages of a device have in common: a protocol version and the purpose of its
streams. -/
structure SignalStyle where
  version : String := "1"
  purpose : String := "m.usermedia"
  deriving DecidableEq, Inhabited, Repr

namespace SignalStyle

/-- The purposes announced for the streams of a masked description. -/
def purposes (style : SignalStyle) (streams : List String) : Purposes :=
  Json.sortEntries (streams.map fun stream => (stream, style.purpose))

/-- The capabilities that an offer or answer announces: a call cannot be handed on. -/
def capabilities : List (String × Json) :=
  [("m.call.transferee", .boolean false)]

/-- The largest lifetime that an event can carry, in milliseconds. -/
def longestLifetime : Nat := UInt64.size - 1

/-- A lifetime in whole milliseconds, as far as an event can carry it. -/
def wireLifetime (lifetime : Duration) : Nat :=
  min lifetime.milliseconds longestLifetime

/-- An invite with the local offer. -/
def invite (style : SignalStyle) (names : Supply) (call : CallId) (party : PartyId)
    (lifetime : Duration) (description : String) : OutgoingSignal × Supply :=
  let (masked, names) := Description.mask names description
  let content : Wire.Invite := {
    call := call
    party := some party
    lifetime := wireLifetime lifetime
    offer := ⟨masked.description, .offer⟩
    capabilities := capabilities
    version := .text style.version
    purposes := style.purposes masked.streams }
  (⟨.invite, content.toJson, masked.streams⟩, names)

/-- An answer with the local answer. -/
def answer (style : SignalStyle) (names : Supply) (call : CallId) (party : PartyId)
    (description : String) : OutgoingSignal × Supply :=
  let (masked, names) := Description.mask names description
  let content : Wire.Answer := {
    call := call
    party := some party
    answer := ⟨masked.description, .answer⟩
    capabilities := capabilities
    version := .text style.version
    purposes := style.purposes masked.streams }
  (⟨.answer, content.toJson, masked.streams⟩, names)

/-- A new local description during a call. -/
def negotiate (style : SignalStyle) (names : Supply) (call : CallId) (party : PartyId)
    (lifetime : Duration) (description : String) (kind : DescriptionKind) :
    OutgoingSignal × Supply :=
  let (masked, names) := Description.mask names description
  let content : Wire.Negotiate := {
    call := call
    party := some party
    lifetime := wireLifetime lifetime
    description := ⟨masked.description, kind⟩
    version := .text style.version
    purposes := style.purposes masked.streams }
  (⟨.negotiate, content.toJson, masked.streams⟩, names)

/-- A batch of local candidates, which may be empty. -/
def candidates (style : SignalStyle) (call : CallId) (party : PartyId)
    (found : List Candidate) : OutgoingSignal :=
  let content : Wire.Candidates := {
    call := call
    party := some party
    candidates := found
    version := .text style.version }
  ⟨.candidates, content.toJson, []⟩

/-- A hangup. -/
def hangup (style : SignalStyle) (call : CallId) (party : PartyId)
    (cause : Option HangupCause) : OutgoingSignal :=
  let content : Wire.Hangup := {
    call := call
    party := some party
    version := .text style.version
    cause := cause }
  ⟨.hangup, content.toJson, []⟩

end SignalStyle

end RoomCall
