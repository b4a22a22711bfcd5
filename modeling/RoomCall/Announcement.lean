import RoomCall.Ident
import RoomCall.Progress

/-!
# What a user is told

A phone is in one of four phases. It announces every change of phase and stage, every call that
rings and every call that ends, with the reason for its end. A hangup sent to the other side names
a cause of its own.
-/

namespace RoomCall

/-- What a phone is doing. -/
inductive Phase where
  /-- There is no call. -/
  | idle
  /-- A call rings and waits for the user. -/
  | incoming
  /-- A call was started and waits for an answer. -/
  | outgoing
  /-- A call is established. -/
  | active
  deriving DecidableEq, Inhabited, Repr

namespace Phase

def name : Phase → String
  | .idle => "Idle"
  | .incoming => "Incoming"
  | .outgoing => "Outgoing"
  | .active => "Active"

def ofJson? : Json → Option Phase :=
  Json.choice?
    [("Idle", .idle), ("Incoming", .incoming), ("Outgoing", .outgoing), ("Active", .active)]

def toJson (phase : Phase) : Json := .string phase.name

end Phase

/-- The cause that a hangup names. -/
inductive HangupCause where
  /-- The user ended the call. -/
  | userHangup
  /-- The devices found no way to reach each other. -/
  | iceFailed
  /-- Nobody answered in time. -/
  | inviteTimeout
  /-- The local media could not be set up. -/
  | userMediaFailed
  /-- Anything else. -/
  | unknownError
  deriving DecidableEq, Inhabited, Repr

namespace HangupCause

def all : List HangupCause :=
  [.userHangup, .iceFailed, .inviteTimeout, .userMediaFailed, .unknownError]

def name : HangupCause → String
  | .userHangup => "user_hangup"
  | .iceFailed => "ice_failed"
  | .inviteTimeout => "invite_timeout"
  | .userMediaFailed => "user_media_failed"
  | .unknownError => "unknown_error"

def title : HangupCause → String
  | .userHangup => "UserHangup"
  | .iceFailed => "IceFailed"
  | .inviteTimeout => "InviteTimeout"
  | .userMediaFailed => "UserMediaFailed"
  | .unknownError => "UnknownError"

def ofJson? : Json → Option HangupCause :=
  Json.choice? (all.map fun cause => (cause.name, cause))

def toJson (cause : HangupCause) : Json := .string cause.name

end HangupCause

/-- Why a call ended on this device. -/
inductive Ending where
  /-- The local user hung up. -/
  | localHangup
  /-- The other side hung up. -/
  | remoteHangup
  /-- Nobody answered in time. -/
  | inviteExpired
  /-- Another device of the local user answered. -/
  | answeredElsewhere
  /-- The devices found no way to reach each other. -/
  | iceFailed
  /-- The pipeline failed. -/
  | mediaFailed (message : String)
  /-- The offer had no codec that can be used. -/
  | noCompatibleCodec
  /-- The local user silenced the call. -/
  | ignored
  deriving DecidableEq, Inhabited, Repr

namespace Ending

/-- The endings that carry no message, with their names. -/
def plain : List (String × Ending) :=
  [("LocalHangup", .localHangup), ("RemoteHangup", .remoteHangup),
    ("InviteExpired", .inviteExpired), ("AnsweredElsewhere", .answeredElsewhere),
    ("IceFailed", .iceFailed), ("NoCompatibleCodec", .noCompatibleCodec), ("Ignored", .ignored)]

def ofJson? (value : Json) : Option Ending :=
  match Json.case? value with
  | some ("MediaFailed", content) => (content >>= Json.text?).map .mediaFailed
  | _ => Json.choice? plain value

def name : Ending → String
  | .localHangup => "LocalHangup"
  | .remoteHangup => "RemoteHangup"
  | .inviteExpired => "InviteExpired"
  | .answeredElsewhere => "AnsweredElsewhere"
  | .iceFailed => "IceFailed"
  | .mediaFailed _ => "MediaFailed"
  | .noCompatibleCodec => "NoCompatibleCodec"
  | .ignored => "Ignored"

def toJson : Ending → Json
  | .mediaFailed message => .object [("MediaFailed", .string message)]
  | ending => .string ending.name

/-- An ending as it is shown in a report. -/
def shown : Ending → String
  | .mediaFailed message => "MediaFailed(" ++ Text.quoted message ++ ")"
  | ending => ending.name

end Ending

/-- Something the user is told about. -/
inductive Announcement where
  /-- A call rings. -/
  | incomingCall (caller : UserId) (room : RoomId) (lifetime : Duration) (call : CallId)
  /-- A call ended. -/
  | callEnded (call : CallId) (ending : Ending)
  /-- Another device of the local user answered the call. -/
  | answeredElsewhere (call : CallId)
  /-- The negotiation moved to another stage. -/
  | progressChanged (stage : Progress)
  /-- The phone moved to another phase. -/
  | phaseChanged (phase : Phase)
  /-- The microphone was muted or unmuted. -/
  | mutedChanged (muted : Bool)
  /-- The people in the call or their cameras changed. -/
  | rosterChanged
  /-- Something went wrong. -/
  | failure (message : String)
  deriving DecidableEq, Inhabited, Repr

/-- The wire form of a duration: its whole seconds and the nanoseconds past them. -/
def Duration.toJson (duration : Duration) : Json :=
  Json.ofMembers [("secs", .ofNat duration.seconds), ("nanos", .ofNat duration.subsecond)]

/-- Reads a duration. Its object has no members but these two, and a number of nanoseconds that
makes up seconds is added to them; the sum has to fit a 64-bit word. -/
def Duration.ofJson? (value : Json) : Option Duration := do
  let known := match value with
    | .object members => members.all fun member => member.1 == "secs" || member.1 == "nanos"
    | _ => true
  let fields ← if known then Json.fields? ["secs", "nanos"] value else none
  let seconds ← fields.required "secs" Json.word64?
  let nanoseconds ← fields.required "nanos" Json.word32?
  let duration : Duration := ⟨seconds * 1000000000 + nanoseconds⟩
  if duration.seconds < UInt64.size then some duration else none

namespace Announcement

def ofJson? (value : Json) : Option Announcement :=
  match Json.case? value with
  | some ("IncomingCall", some content) => do
      let fields ← Json.namedFields? content
      let caller ← fields.required "remote_user" UserId.ofJson?
      let room ← fields.required "room_id" RoomId.ofJson?
      let lifetime ← fields.required "lifetime" Duration.ofJson?
      let call ← fields.required "call_id" CallId.ofJson?
      return .incomingCall caller room lifetime call
  | some ("CallEnded", some content) => do
      let fields ← Json.namedFields? content
      let call ← fields.required "call_id" CallId.ofJson?
      let ending ← fields.required "reason" Ending.ofJson?
      return .callEnded call ending
  | some ("AnsweredElsewhere", some content) => do
      let fields ← Json.namedFields? content
      let call ← fields.required "call_id" CallId.ofJson?
      return .answeredElsewhere call
  | some ("StateChanged", some content) => (Progress.ofJson? content).map .progressChanged
  | some ("GlobalStateChanged", some content) => (Phase.ofJson? content).map .phaseChanged
  | some ("MutedChanged", some content) => (Json.boolean? content).map .mutedChanged
  | some ("ParticipantsChanged", content) => (Json.noContent? content).map fun _ => .rosterChanged
  | some ("Error", some content) => (Json.text? content).map .failure
  | _ => none

def toJson : Announcement → Json
  | .incomingCall caller room lifetime call =>
      .object [("IncomingCall", Json.ofMembers
        [("remote_user", .string caller.text), ("room_id", .string room.text),
          ("lifetime", lifetime.toJson), ("call_id", .string call.text)])]
  | .callEnded call ending =>
      .object [("CallEnded", Json.ofMembers
        [("call_id", .string call.text), ("reason", ending.toJson)])]
  | .answeredElsewhere call =>
      .object [("AnsweredElsewhere", .object [("call_id", .string call.text)])]
  | .progressChanged stage => .object [("StateChanged", stage.toJson)]
  | .phaseChanged phase => .object [("GlobalStateChanged", phase.toJson)]
  | .mutedChanged muted => .object [("MutedChanged", .boolean muted)]
  | .rosterChanged => .string "ParticipantsChanged"
  | .failure message => .object [("Error", .string message)]

end Announcement

end RoomCall
