import RoomCall.Host.Basic

/-!
# Runs of a host

A host meets its surroundings in moves: somebody gives it a command or an event, a capture device
is plugged in or goes away, it turns to its work, it tries an event, an answer about relay
credentials comes back, its timer runs out, or time passes. Time passes only while there is nothing
else to do, and never past the next moment at which there is. Everything else is free: a statement
about all runs covers every order in which commands, events and answers can come, and every way in
which sending can fail.
-/

namespace RoomCall

/-- A move of a host or of its surroundings. -/
inductive Move where
  /-- A user gives a command. -/
  | command (command : Command)
  /-- An event of a room arrives. -/
  | arrival (membership : Membership) (event : TimelineEvent)
  /-- A capture device is plugged in or goes away. -/
  | plug (change : Hotplug)
  /-- The host turns to its next piece of work at an instant of the calendar. -/
  | turn (now : Instant)
  /-- The host tries the first event of its outbox. -/
  | attempt (delivered : Bool)
  /-- A request for relay credentials is answered. -/
  | relayAnswer (outcome : Except String Relay.Grant)
  /-- The timer runs out. -/
  | expiry
  /-- Time passes. -/
  | wait (span : Nat)

namespace Host

variable {ε : Type}

/-- The timer, if it has run out. -/
def dueTimer? (host : Host ε) : Option Timer :=
  host.timer.filter (·.deadline ≤ host.clock)

/-- Whether nothing can be done before time passes or something comes from outside. -/
def isIdle (host : Host ε) : Bool :=
  host.isAtRest && (host.outbox.due? host.clock).isNone && host.dueTimer?.isNone

/-- The moment up to which the pause of the outbox is waited for: as long as there is something
to send, or the host is about to stop. -/
def pauseEnd? (host : Host ε) : Option Moment :=
  if host.outbox.parcels.isEmpty && !host.closing || host.outbox.readyAt ≤ host.clock then none
  else some host.outbox.readyAt

/-- The next moment at which an idle host has something to do. -/
def wake? (host : Host ε) : Option Moment :=
  match host.timer.map Timer.deadline, host.pauseEnd? with
  | some deadline, some pauseEnd => some (min deadline pauseEnd)
  | some deadline, none => some deadline
  | none, pauseEnd => pauseEnd

/-- Whether a move can be made. -/
def allows (host : Host ε) : Move → Bool
  | .command _ | .arrival _ _ | .plug _ => true
  | .turn _ => !host.isAtRest
  | .attempt _ => (host.outbox.due? host.clock).isSome
  | .relayAnswer _ => 0 < host.relayRequests
  | .expiry => host.dueTimer?.isSome
  | .wait span => host.isIdle && host.wake?.all (host.clock + span ≤ ·)

/-- Tries the first event of the outbox. -/
def attempt (host : Host ε) (delivered : Bool) : Host ε :=
  match host.outbox.due? host.clock with
  | some parcel =>
      { host with outbox := host.outbox.tried host.clock delivered }.record (.tried parcel delivered)
  | none => host

/-- Takes the answer to a request for relay credentials. -/
def takeRelayAnswer (host : Host ε) (outcome : Except String Relay.Grant) : Host ε :=
  { host with
    relayRequests := host.relayRequests - 1
    findings := host.findings ++ [.relay outcome] }

/-- Notes that the timer has run out. -/
def expire (host : Host ε) : Host ε :=
  match host.dueTimer? with
  | some timer => { host with timer := none, findings := host.findings ++ [.expired timer.call] }
  | none => host

variable [MediaEngine ε]

/-- The host after a move. -/
def move (host : Host ε) : Move → Host ε
  | .command command => { host with commands := host.commands ++ [command] }
  | .arrival membership event =>
      { host with arrivals := host.arrivals ++ [(membership, event)] }
  | .plug change => { host with phone := host.phone.plug change }
  | .turn now => host.turn now
  | .attempt delivered => host.attempt delivered
  | .relayAnswer outcome => host.takeRelayAnswer outcome
  | .expiry => host.expire
  | .wait span => { host with clock := host.clock + span }

/-- The host after a run, if each of its moves can be made in turn. -/
def run? (host : Host ε) : List Move → Option (Host ε)
  | [] => some host
  | move :: later => if host.allows move then (host.move move).run? later else none

end Host

end RoomCall
