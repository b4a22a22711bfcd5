import RoomCall.Engine.Scripted
import RoomCall.Stage.Run

/-!
# A call in one process

Two hosts with scripted engines call each other in a room of their own. The caller hangs up some
seconds after the call is connected, or the call is left ringing until its invite expires. The
report tells what happens step by step, and then lists all events of the room.
-/

namespace RoomCall.Tool

/-- Why the call did not take its course. -/
inductive LoopbackError where
  | host (error : HostError)
  /-- A host did not announce in time what was waited for. -/
  | timeout
  deriving DecidableEq, Repr

def LoopbackError.message : LoopbackError → String
  | .host error => error.message
  | .timeout => "timed out waiting for call event"

namespace Loopback

/-- The user who calls. -/
def caller : UserId := ⟨"@alice:loopback.invalid"⟩

/-- The user who is called. -/
def callee : UserId := ⟨"@bob:loopback.invalid"⟩

/-- The room of the two. -/
def room : RoomId := ⟨"!loopback:loopback.invalid"⟩

/-- The relay credentials of the two. -/
def grant : Relay.Grant where
  username := "loopback"
  password := "loopback"
  uris := ["turn:turn.invalid:3478?transport=udp"]
  lifetime := 3600

/-- The microphone of the two. -/
def microphone : Microphone := ⟨"loopback-mic", "Loopback Microphone"⟩

/-- The room as a user sees it. -/
def membership (user : UserId) : Membership := ⟨room, user, [caller, callee]⟩

/-- The device of a user. -/
def seat (settings : HostSettings) (supplies : Supplies) (user : UserId) :
    Except LoopbackError (Seat Engine.Scripted) := do
  let phone : Phone Engine.Scripted := {
    maker := { make := fun _ => {} }
    inventory := { microphones := [microphone] }
    callTokens := supplies.callTokens
    partyNames := supplies.partyNames
    streamNames := supplies.streamNames }
  let host ← (Host.start settings phone).mapError .host
  return {
    name := user.text
    host := host
    line := { user := user, grant := some grant }
    membership := membership user }

/-- What a user has been told so far. -/
def told (stage : Stage Engine.Scripted) (user : UserId) : List Announcement :=
  match stage.seat? user.text with
  | some seat => Host.announcements seat.host.log
  | none => []

/-- Lets time pass until a user has been told something of a kind, after the first `known`
announcements, but no longer than `limit` milliseconds. -/
def waitFor {α : Type} (user : UserId) (known : Nat) (wanted : Announcement → Option α)
    (limit : Nat) (stage : Stage Engine.Scripted) :
    Except LoopbackError (Stage Engine.Scripted × α) :=
  match ((told stage user).drop known).findSome? wanted with
  | some found => .ok (stage, found)
  | none =>
      match stage.untilNext? with
      | some next =>
          if 0 < next ∧ next ≤ limit then
            waitFor user known wanted (limit - next) (stage.pass next).rest
          else
            .error .timeout
      | none => .error .timeout
termination_by limit

/-- Gives a command to the host of a user. -/
def ask (stage : Stage Engine.Scripted) (user : UserId) (command : Command) :
    Except LoopbackError (Stage Engine.Scripted × Reply) :=
  match stage.ask user.text command with
  | some (next, .ok reply) => .ok (next, reply)
  | some (_, .error error) => .error (.host error)
  | none => .error (.host .stopped)

/-- Whether an announcement says that a call rings. -/
def rings : Announcement → Option Unit
  | .incomingCall _ _ _ _ => some ()
  | _ => none

/-- Whether an announcement says that the call is connected. -/
def connects : Announcement → Option Unit
  | .progressChanged .connected => some ()
  | _ => none

/-- How the call ended, if an announcement says that it has. -/
def ends : Announcement → Option Ending
  | .callEnded _ ending => some ending
  | _ => none

/-- The time in which a step has to come about, in milliseconds. -/
def patience : Nat := 5000

/-- A text with blanks behind it up to a width. -/
def padded (width : Nat) (text : String) : String :=
  text ++ String.ofList (List.replicate (width - text.length) ' ')

/-- The line for an event of the room. -/
def eventLine (event : TimelineEvent) : String :=
  "  " ++ event.id.text ++ " " ++ padded 18 event.type ++ " " ++ event.sender.text

/-- The lines of a report, oldest first, and the error that ended it. -/
structure Report where
  lines : List String := []
  error : Option LoopbackError := none

/-- A report with a line in front. -/
def Report.under (line : String) (report : Report) : Report :=
  { report with lines := line :: report.lines }

/-- Goes on with what came about, or ends the report. -/
def Report.after {α : Type} (outcome : Except LoopbackError α) (later : α → Report) : Report :=
  match outcome with
  | .ok value => later value
  | .error error => { error := some error }

/-- The end of the report: how the call ended, and all events of the room. -/
def finish (lifetime : Nat) (known : Nat) (stage : Stage Engine.Scripted) : Report :=
  .after (waitFor callee known ends (lifetime + patience) stage) fun (stage, ending) =>
    .under ("📴 Call ended on " ++ callee.text ++ ": " ++ ending.shown)
      { lines := ["", "Room timeline:"] ++ stage.timeline.history.map eventLine }

/-- The part of the report from when the call rings. -/
def ringing (answered : Bool) (seconds : Nat) (lifetime : Nat) (known : Nat)
    (stage : Stage Engine.Scripted) : Report :=
  if answered then
    .after (ask stage callee .accept) fun (stage, _) =>
      .after (waitFor caller 0 connects patience stage) fun (stage, _) =>
        .under ("✅ Connected, hanging up in " ++ toString seconds ++ "s") <|
          .after (ask (stage.advance (1000 * seconds)) caller .hangUp) fun (stage, _) =>
            finish lifetime known stage
  else
    .under ("⏳ Not answering, waiting " ++ toString (lifetime / 1000) ++
      "s for the invite to expire") (finish lifetime known stage)

/-- The report on a call. -/
def report (settings : HostSettings) (now : Instant) (callerSupplies calleeSupplies : Supplies)
    (answered : Bool) (seconds : Nat) : Report :=
  let lifetime := settings.phone.inviteLifetime
  let seats := do
    let calling ← seat settings callerSupplies caller
    let called ← seat settings calleeSupplies callee
    return [calling, called]
  .after seats fun seats =>
    let stage : Stage Engine.Scripted := { timeline := { room := room }, seats := seats, now := now }
    .after (ask stage caller (.startCall (membership caller))) fun (stage, reply) =>
      let call := match reply with
        | .started call => call.text
        | _ => ""
      .under ("📞 " ++ caller.text ++ " calling " ++ callee.text ++ " (" ++ call ++ ")") <|
        .after (waitFor callee 0 rings patience stage) fun (stage, _) =>
          .under ("🔔 " ++ callee.text ++ " is ringing")
            (ringing answered seconds lifetime (told stage callee).length stage)

end Loopback

end RoomCall.Tool
