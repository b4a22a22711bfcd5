import RoomCall.Phone.Controls
import RoomCall.Phone.Signals

/-!
# Runs of a phone

Everything that can happen to a phone is an occurrence. A run is a list of occurrences, each with
the instant at which it happens, handled in order. The results of what the user asks for are
replies; everything else that comes of an occurrence is in the log.
-/

namespace RoomCall

/-- Something that happens to a phone. -/
inductive Occurrence where
  | event (membership : Membership) (event : TimelineEvent)
  | signal (membership : Membership) (signal : Signal)
  | startCall (membership : Membership)
  | accept
  | hangUp
  | ignore
  | setMuted (muted : Bool)
  | toggleCamera
  | relayRefreshed (outcome : Except String Relay.Grant)
  | inviteExpired (call : CallId)
  | callback (session : SessionId) (callback : Engine.Callback)
  | plug (change : Hotplug)

/-- The reply to what was asked of a phone. -/
inductive Reply where
  | done
  | started (call : CallId)
  | camera (on : Bool)
  deriving DecidableEq, Repr

namespace Phone

variable {ε : Type} [MediaEngine ε]

/-- Handles an occurrence. -/
def handle (phone : Phone ε) (now : Instant) : Occurrence → Phone ε × Except PhoneError Reply
  | .event membership event => (phone.hearEvent now membership event, .ok .done)
  | .signal membership signal => (phone.hear now membership signal, .ok .done)
  | .startCall membership =>
      let (next, outcome) := phone.startCall now membership
      (next, outcome.map .started)
  | .accept =>
      let (next, outcome) := phone.accept now
      (next, outcome.map fun _ => .done)
  | .hangUp => (phone.hangUp, .ok .done)
  | .ignore =>
      let (next, outcome) := phone.ignore
      (next, outcome.map fun _ => .done)
  | .setMuted muted =>
      let (next, outcome) := phone.setMuted muted
      (next, outcome.map fun _ => .done)
  | .toggleCamera =>
      let (next, outcome) := phone.toggleCamera
      (next, outcome.map .camera)
  | .relayRefreshed outcome => (phone.relayRefreshed now outcome, .ok .done)
  | .inviteExpired call => (phone.inviteExpired call, .ok .done)
  | .callback session callback => (phone.hearEngine session callback, .ok .done)
  | .plug change => (phone.plug change, .ok .done)

/-- The phone after an occurrence. -/
def after (phone : Phone ε) (now : Instant) (occurrence : Occurrence) : Phone ε :=
  (phone.handle now occurrence).1

/-- The phone after a run. -/
def run (phone : Phone ε) (occurrences : List (Instant × Occurrence)) : Phone ε :=
  occurrences.foldl (fun current entry => current.after entry.1 entry.2) phone

/-- The log of a phone, and the phone with an empty log. -/
def takeLog (phone : Phone ε) : Phone ε × List LogEntry :=
  ({ phone with log := [] }, phone.log)

/-- The callbacks among some log entries, in order. -/
def callbacks (entries : List LogEntry) : List (SessionId × Engine.Callback) :=
  entries.filterMap fun entry =>
    match entry with
    | .traffic session (.callback callback) => some (session, callback)
    | _ => none

end Phone

end RoomCall
