import RoomCall.Host.Outbox
import RoomCall.Host.Settings
import RoomCall.Phone.Run
import RoomCall.Phone.Snapshot

/-!
# Hosts

A host gives a phone what it lacks: queues in front of it, an outbox, a timer, and somebody who
fetches relay credentials. It turns to one piece of work at a time. Callbacks of engines go first,
then what the host itself was waiting for, then commands, then events of rooms; and after each
piece it carries out everything that the phone ordered before it turns to the next.

A host that is told to shut down hangs up, calls its timer off and takes no more work. It has
stopped as soon as its outbox is flushed.

Everything that happens is kept in the log, each entry with its moment.
-/

namespace RoomCall

/-- What a user asks of a host. -/
inductive Command where
  | startCall (membership : Membership)
  | accept
  | hangUp
  | ignore
  | setMuted (muted : Bool)
  | toggleCamera
  | shutDown
  deriving DecidableEq, Repr

/-- What a command is for the phone. Shutting down is nothing to the phone itself. -/
def Command.occurrence? : Command → Option Occurrence
  | .startCall membership => some (.startCall membership)
  | .accept => some .accept
  | .hangUp => some .hangUp
  | .ignore => some .ignore
  | .setMuted muted => some (.setMuted muted)
  | .toggleCamera => some .toggleCamera
  | .shutDown => none

/-- What a host was waiting for. -/
inductive Finding where
  | relay (outcome : Except String Relay.Grant)
  | expired (call : CallId)

/-- What a finding is for the phone. -/
def Finding.occurrence : Finding → Occurrence
  | .relay outcome => .relayRefreshed outcome
  | .expired call => .inviteExpired call

/-- An entry of a host's log. -/
inductive HostEntry where
  /-- An entry of the phone's log. -/
  | phone (entry : LogEntry)
  /-- A command was answered. -/
  | replied (command : Command) (outcome : Except PhoneError Reply)
  /-- An event was tried. -/
  | tried (parcel : Parcel) (delivered : Bool)

/-- A timer that runs for a call. -/
structure Timer where
  deadline : Moment
  call : CallId
  deriving DecidableEq, Repr

/-- The state of a host. -/
structure Host (ε : Type) where
  phone : Phone ε
  clock : Moment := 0
  callbacks : List (SessionId × Engine.Callback) := []
  findings : List Finding := []
  commands : List Command := []
  arrivals : List (Membership × TimelineEvent) := []
  timer : Option Timer := none
  /-- The number of requests for relay credentials that have not been answered. -/
  relayRequests : Nat := 0
  outbox : Outbox := {}
  /-- Whether the host has been told to shut down. -/
  closing : Bool := false
  log : List (Moment × HostEntry) := []

namespace Host

variable {ε : Type} [MediaEngine ε]

omit [MediaEngine ε] in
/-- A host for a phone, if the settings allow one. -/
def start (settings : HostSettings) (phone : Phone ε) : Except HostError (Host ε) :=
  if !settings.isUsable then .error .noCapacity
  else if !settings.isPossible then .error .excessCapacity
  else .ok { phone := { phone with settings := settings.phone } }

omit [MediaEngine ε] in
/-- Writes to the log. -/
def record (host : Host ε) (entry : HostEntry) : Host ε :=
  { host with log := host.log ++ [(host.clock, entry)] }

omit [MediaEngine ε] in
/-- Does what the phone ordered. Starting the timer replaces a timer that runs. -/
def carryOutErrand (host : Host ε) : Errand → Host ε
  | .send room signal => { host with outbox := host.outbox.push ⟨room, signal⟩ }
  | .refreshRelay => { host with relayRequests := host.relayRequests + 1 }
  | .armTimer call lifetime =>
      { host with timer := some ⟨host.clock + lifetime.milliseconds, call⟩ }
  | .cancelTimer => { host with timer := none }

omit [MediaEngine ε] in
/-- Keeps an entry of the phone's log and does what it asks for. -/
def carryOut (host : Host ε) (entry : LogEntry) : Host ε :=
  let kept := host.record (.phone entry)
  match entry with
  | .errand errand => kept.carryOutErrand errand
  | .traffic session (.callback callback) =>
      { kept with callbacks := kept.callbacks ++ [(session, callback)] }
  | .announcement _ | .traffic _ (.request _) => kept

/-- Hands something to the phone and carries out everything that comes of it. -/
def perform (host : Host ε) (now : Instant) (occurrence : Occurrence) :
    Host ε × Except PhoneError Reply :=
  let (phone, outcome) := host.phone.handle now occurrence
  let (quiet, entries) := phone.takeLog
  (entries.foldl carryOut { host with phone := quiet }, outcome)

/-- Shuts down: hangs up and takes no more work. -/
def close (host : Host ε) (now : Instant) : Host ε :=
  { (host.perform now .hangUp).1 with timer := none, closing := true }

/-- Follows a command. -/
def follow (host : Host ε) (now : Instant) (command : Command) : Host ε :=
  match command.occurrence? with
  | some occurrence =>
      let (next, outcome) := host.perform now occurrence
      next.record (.replied command outcome)
  | none => host.close now

omit [MediaEngine ε] in
/-- Whether there is no work to turn to. -/
def isAtRest (host : Host ε) : Bool :=
  host.closing ||
    (host.callbacks.isEmpty && host.findings.isEmpty && host.commands.isEmpty &&
      host.arrivals.isEmpty)

/-- Turns to the next piece of work. -/
def turn (host : Host ε) (now : Instant) : Host ε :=
  if host.closing then
    host
  else
    match host.callbacks, host.findings, host.commands, host.arrivals with
    | (session, callback) :: later, _, _, _ =>
        ({ host with callbacks := later }.perform now (.callback session callback)).1
    | [], finding :: later, _, _ =>
        ({ host with findings := later }.perform now finding.occurrence).1
    | [], [], command :: later, _ => { host with commands := later }.follow now command
    | [], [], [], (membership, event) :: later =>
        ({ host with arrivals := later }.perform now (.event membership event)).1
    | [], [], [], [] => host

omit [MediaEngine ε] in
/-- Whether the host has shut down and nothing is left to do. -/
def isStopped (host : Host ε) : Bool :=
  host.closing && host.outbox.isFlushed host.clock

/-- What a user sees of the phone, until the host is told to shut down. -/
def snapshot (host : Host ε) : Except HostError Snapshot :=
  if host.closing then .error .stopped else .ok host.phone.snapshot

omit [MediaEngine ε] in
/-- The log of a host, and the host with an empty log. -/
def takeLog (host : Host ε) : Host ε × List (Moment × HostEntry) :=
  ({ host with log := [] }, host.log)

omit [MediaEngine ε] in
/-- The announcements in some entries of a log, in order. -/
def announcements (entries : List (Moment × HostEntry)) : List Announcement :=
  entries.filterMap fun entry =>
    match entry.2 with
    | .phone (.announcement announcement) => some announcement
    | _ => none

omit [MediaEngine ε] in
/-- The replies in some entries of a log, in order. -/
def replies (entries : List (Moment × HostEntry)) : List (Except PhoneError Reply) :=
  entries.filterMap fun entry =>
    match entry.2 with
    | .replied _ outcome => some outcome
    | _ => none

end Host

end RoomCall
