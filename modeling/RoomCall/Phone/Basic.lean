import RoomCall.Inventory
import RoomCall.Negotiation
import RoomCall.Phone.Settings
import RoomCall.Relay
import RoomCall.Roster
import RoomCall.Signal.Writing

/-!
# The state of a phone

A phone serves one account and has at most one call at a time. It never waits: what has to happen
outside it is an errand for its owner, what the user should know is an announcement, and both are
written to the phone's log together with what passes between it and its engines. The log is in the
order in which things happen; nothing a phone does depends on it, so an owner may clear it whenever
it has been read.
-/

namespace RoomCall

/-- What the owner of a phone has to do for it. -/
inductive Errand where
  /-- Send an event into a room, after all events sent before. -/
  | send (room : RoomId) (signal : OutgoingSignal)
  /-- Ask the homeserver for relay credentials and hand the result back. -/
  | refreshRelay
  /-- Tell the phone when the lifetime of an invite is over, unless that is called off. -/
  | armTimer (call : CallId) (lifetime : Duration)
  /-- Call off the timer. -/
  | cancelTimer

/-- An entry of a phone's log. -/
inductive LogEntry where
  | errand (content : Errand)
  | announcement (content : Announcement)
  /-- What passed between the negotiation with this number and its engine. -/
  | traffic (session : SessionId) (content : Traffic)

/-- Why a phone refuses what its user asks for. -/
inductive PhoneError where
  /-- There is a call already. -/
  | busy
  /-- The room does not have exactly two members. -/
  | notOneToOne (members : Nat)
  /-- Something that calls need is missing. -/
  | missingCapabilities (missing : List String)
  /-- The offer has no codec that can be used. -/
  | noCompatibleCodec
  /-- The phone is in another phase. -/
  | wrongPhase (phase : Phase)
  /-- There is no call. -/
  | noCall
  /-- The negotiation refused. -/
  | negotiation (error : NegotiationError)
  deriving DecidableEq, Repr

def PhoneError.name : PhoneError → String
  | .busy => "Busy"
  | .notOneToOne _ => "NotOneToOne"
  | .missingCapabilities _ => "MissingCapabilities"
  | .noCompatibleCodec => "NoCompatibleCodec"
  | .wrongPhase _ => "InvalidState"
  | .noCall => "NoActiveCall"
  | .negotiation _ => "Session"

def PhoneError.message : PhoneError → String
  | .busy => "A call is already in progress"
  | .notOneToOne members =>
      "Calls are only supported in rooms with two members, this one has " ++ toString members
  | .missingCapabilities missing => "Missing capabilities: " ++ ", ".intercalate missing
  | .noCompatibleCodec => "Remote offer has no compatible codec"
  | .wrongPhase phase => "Operation not allowed while " ++ phase.name
  | .noCall => "No active call"
  | .negotiation error => "Session error: " ++ error.message

/-- The call that a phone has. -/
structure Call (ε : Type) where
  id : CallId
  room : RoomId
  localUser : UserId
  /-- The party that this device is in the call. -/
  party : PartyId
  remoteUser : UserId
  /-- The party of the other side, once it is known. -/
  remoteParty : Option PartyId
  members : List UserId
  lifetime : Duration
  /-- A remote description that waits to be applied. -/
  heldDescription : Option String := none
  /-- Remote candidates that wait to be applied, with the party that sent them. -/
  heldCandidates : List (Option PartyId × Candidate) := []
  negotiation : Option (Negotiation ε) := none
  /-- Whether the user has accepted the call. -/
  accepted : Bool := false
  /-- The side to start on as soon as relay credentials are there. -/
  deferred : Option Role := none

/-- The state of a phone. -/
structure Phone (ε : Type) where
  settings : PhoneSettings := {}
  maker : EngineMaker ε
  inventory : Inventory := {}
  relay : Relay.Cache := {}
  /-- Whether relay credentials have been asked for. -/
  refreshing : Bool := false
  phase : Phase := .idle
  call : Option (Call ε) := none
  roster : Roster := []
  /-- Characters for the names of new calls. -/
  callTokens : Supply
  /-- Names for this device in new calls. -/
  partyNames : Supply
  /-- Names for streams and tracks in outgoing descriptions. -/
  streamNames : Supply
  /-- The number of the next negotiation. -/
  nextSession : SessionId := 1
  log : List LogEntry := []

namespace Phone

variable {ε : Type}

/-- Writes to the log. -/
def record (phone : Phone ε) (entry : LogEntry) : Phone ε :=
  { phone with log := phone.log ++ [entry] }

/-- Gives the owner something to do. -/
def order (phone : Phone ε) (errand : Errand) : Phone ε :=
  phone.record (.errand errand)

/-- Tells the user something. -/
def announce (phone : Phone ε) (announcement : Announcement) : Phone ε :=
  phone.record (.announcement announcement)

/-- Moves to another phase and announces it; at the same phase nothing happens. -/
def setPhase (phone : Phone ε) (phase : Phase) : Phone ε :=
  if phone.phase = phase then phone
  else { phone with phase := phase }.announce (.phaseChanged phase)

/-- Replaces the roster and announces it if anything changed. -/
def setRoster (phone : Phone ε) (roster : Roster) : Phone ε :=
  if phone.roster = roster then phone
  else { phone with roster := roster }.announce .rosterChanged

/-- Asks for relay credentials, unless that has been done. -/
def requestRelay (phone : Phone ε) : Phone ε :=
  if phone.refreshing then phone
  else { phone with refreshing := true }.order .refreshRelay

/-- The style of outgoing messages. -/
def style (phone : Phone ε) : SignalStyle :=
  { version := phone.settings.version, purpose := phone.settings.streamPurpose }

/-- The lifetime of the invites of this phone. -/
def inviteLifetime (phone : Phone ε) : Duration :=
  .ofMilliseconds phone.settings.inviteLifetime

/-- The age beyond which invites do not ring. -/
def staleInviteAge (phone : Phone ε) : Duration :=
  .ofMilliseconds phone.settings.staleInviteAge

/-- What the pipeline of a call is built from. -/
def pipeline (phone : Phone ε) : Engine.Pipeline where
  relays := phone.relay.uris
  microphone := phone.inventory.choose .audio phone.settings.microphone
  camera := phone.settings.camera >>= fun name => phone.inventory.choose .video (some name)

/-- Keeps the negotiation of a call after an operation on it, and logs what passed between it and
its engine. -/
def keep (phone : Phone ε) (call : Call ε) (negotiation : Negotiation ε) : Phone ε :=
  let (quiet, traffic) := negotiation.collect
  { phone with
    call := some { call with negotiation := some quiet }
    log := phone.log ++ traffic.map (LogEntry.traffic negotiation.id) }

/-- The negotiation of the current call. -/
def negotiation? (phone : Phone ε) : Option (Negotiation ε) :=
  phone.call >>= Call.negotiation

/-- The stage of the current negotiation. -/
def progress (phone : Phone ε) : Progress :=
  match phone.negotiation? with
  | some negotiation => negotiation.progress
  | none => .disconnected

/-- Whether the microphone is muted. -/
def isMuted [MediaEngine ε] (phone : Phone ε) : Bool :=
  phone.negotiation?.any Negotiation.isMuted

end Phone

end RoomCall
