import RoomCall.Tool.Listing
import RoomCall.Tool.Loopback
import RoomCall.Tool.Pages

/-!
# Runs of the tool

A run reads its arguments, then the file with the settings, and then does its task. The first
thing that fails ends it. Files are looked up by name, so a run depends on nothing but its
arguments and its surroundings.
-/

namespace RoomCall.Tool

/-- What a run finds around it. -/
structure Surroundings where
  /-- The file with the settings that the environment names. -/
  settingsFile : Option String
  /-- The text of a file, if there is such a file and it can be read. -/
  read : String → Option String
  now : Instant
  callerSupplies : Supplies
  calleeSupplies : Supplies

/-- Why a run failed. -/
inductive RunError where
  | unreadable (file : String)
  /-- The file does not hold settings. -/
  | noSettings (file : String)
  | notJson
  /-- The value in the file is no event. -/
  | notEvents
  /-- Some of all events carry no signal. -/
  | undecoded (failures total : Nat)
  | loopback (error : LoopbackError)
  deriving DecidableEq, Repr

def RunError.message : RunError → String
  | .unreadable file => "reading " ++ file
  | .noSettings file => "parsing " ++ file
  | .notJson => "events are not JSON"
  | .notEvents => "not a room event"
  | .undecoded failures total =>
      toString failures ++ " of " ++ toString total ++ " event(s) could not be decoded"
  | .loopback error => error.message

/-- Whether a run did not fail but broke off, because it asked for more than there can be. -/
def RunError.isBreakdown (error : RunError) : Bool :=
  error = .loopback (.host .excessCapacity)

/-- What a run leaves. -/
structure Outcome where
  lines : List String := []
  failures : List (EventId × SignalError) := []
  error : Option RunError := none
  /-- Whether the arguments were wrong. -/
  misused : Bool := false

/-- The exit code for an outcome. -/
def Outcome.exitCode (outcome : Outcome) : Nat :=
  if outcome.misused then
    2
  else
    match outcome.error with
    | some error => if error.isBreakdown then 101 else 1
    | none => 0

/-- What is said about the error that ended a run. -/
def Outcome.verdict : Outcome → Option String
  | { error := some error, .. } =>
      some (if error.isBreakdown then error.message else "Error: " ++ error.message)
  | _ => none

/-- The text of a file. -/
def Surroundings.text (surroundings : Surroundings) (file : String) : Except RunError String :=
  match surroundings.read file with
  | some text => .ok text
  | none => .error (.unreadable file)

/-- The settings that are in effect. -/
def settings (surroundings : Surroundings) : Option String → Except RunError HostSettings
  | none => .ok {}
  | some file => do
      let text ← surroundings.text file
      match HostSettings.ofText? text with
      | some settings => .ok settings
      | none => .error (.noSettings file)

/-- Lists the events of a file. -/
def decode (surroundings : Surroundings) (file : String) : Except RunError Outcome := do
  let text ← surroundings.text file
  match Json.document? text with
  | none => .error .notJson
  | some value =>
      match events? value with
      | none => .error .notEvents
      | some events =>
          let failures := undecoded events
          return {
            lines := listing events
            failures := failures
            error := if failures.isEmpty then none
              else some (.undecoded failures.length events.length) }

/-- Does a task. -/
def perform (surroundings : Surroundings) (settings : HostSettings) :
    Task → Except RunError Outcome
  | .decode file => decode surroundings file
  | .simulate answered seconds =>
      let report := Loopback.report settings surroundings.now surroundings.callerSupplies
        surroundings.calleeSupplies answered seconds
      .ok { lines := report.lines, error := report.error.map .loopback }
  | .config => .ok { lines := (settings.toJson.indented 0).splitOn "\n" }

/-- The files that a plan needs. -/
def Plan.files (plan : Plan) : List String :=
  plan.settingsFile.toList ++
    match plan.task with
    | .decode file => [file]
    | _ => []

/-- Follows a plan. -/
def follow (surroundings : Surroundings) (plan : Plan) : Outcome :=
  let outcome := do
    let settings ← settings surroundings plan.settingsFile
    perform surroundings settings plan.task
  match outcome with
  | .ok outcome => outcome
  | .error error => { error := some error }

/-- What a run with some arguments leaves. -/
def run (surroundings : Surroundings) (arguments : List String) : Outcome :=
  match readArguments surroundings.settingsFile none none arguments with
  | .ok plan => follow surroundings plan
  | .error .misuse => { misused := true }
  | .error (.help page) => { lines := page.lines surroundings.settingsFile }
  | .error .version => { lines := [versionLine] }

end RoomCall.Tool
