import RoomCall.Text.Decimal
import RoomCall.Text.Mark

/-!
# The arguments of the tool

In front of the name of a command stands at most one option, the file with the settings. It may be
given in the environment instead, but an argument goes first. What follows the name belongs to the
command. Everything that does not fit is a misuse; a request for help or for the version ends the
reading where it stands, so that only a misuse before it counts. An option that takes the next
argument for its value is looked at when another option comes up, or else when the command has
been read.
-/

namespace RoomCall.Tool

/-- What the tool is asked to do. -/
inductive Task where
  /-- Decode the events in a file. -/
  | decode (file : String)
  /-- Run a call between two devices, which is answered or not, and hang up after some seconds. -/
  | simulate (answered : Bool) (seconds : Nat)
  /-- Show the settings that are in effect. -/
  | config
  deriving DecidableEq, Repr

/-- A page of help. -/
inductive Page where
  | tool
  | decode
  | simulate
  | config
  | help
  deriving DecidableEq, Repr

/-- The page about a command, by the name of the command. -/
def Page.ofName? (name : String) : Option Page :=
  [("decode", .decode), ("simulate", .simulate), ("config", .config), ("help", .help)].lookup name

/-- A task and the file with the settings for it. -/
structure Plan where
  settingsFile : Option String
  task : Task
  deriving DecidableEq, Repr

/-- Why there is no plan. -/
inductive Halt where
  | misuse
  | help (page : Page)
  | version
  deriving DecidableEq, Repr

/-- How an argument is spelled. -/
inductive Spelling where
  /-- A value or a name; a single dash is one too. -/
  | word
  /-- Two dashes: only values follow. -/
  | dashes
  /-- An option with a long name, perhaps with a value behind an equals sign. -/
  | long (name : String) (value : Option String)
  /-- Options with short names, perhaps with a value behind the last of them. -/
  | short (name : Char) (rest : List Char)
  deriving DecidableEq, Repr

/-- The spelling of an argument. -/
def spelling (argument : String) : Spelling :=
  match argument.toList with
  | ['-', '-'] => .dashes
  | '-' :: '-' :: text =>
      match Text.splitFirst? '=' text with
      | some (name, value) => .long (String.ofList name) (some (String.ofList value))
      | none => .long (String.ofList text) none
  | '-' :: name :: rest => .short name rest
  | _ => .word

/-- The value behind a short option, if there is one; an equals sign may stand between them. -/
def attached? : List Char → Option String
  | [] => none
  | '=' :: value => some (String.ofList value)
  | value => some (String.ofList value)

/-- The value of an option and the arguments behind it. Without an attached value it is the next
argument, unless that looks like an option. -/
def takeValue? (attached : Option String) (later : List String) : Option (String × List String) :=
  match attached, later with
  | some value, later => some (value, later)
  | none, value :: later => if spelling value = .word then some (value, later) else none
  | none, [] => none

/-- Whether an argument asks for help. -/
def asksForHelp : Spelling → Bool
  | .long name none => name = "help"
  | .short name _ => name = 'h'
  | _ => false

/-- Reads the arguments of a command that has none but a request for help. -/
def readConfig : Bool → List String → Except Halt Task
  | _, [] => .ok .config
  | true, _ :: _ => .error .misuse
  | false, argument :: later =>
      if asksForHelp (spelling argument) then .error (.help .config)
      else if spelling argument = .dashes then readConfig true later
      else .error .misuse

/-- Reads the file of the command that decodes. Behind two dashes every argument is a value. -/
def readDecode (file : Option String) : Bool → List String → Except Halt Task
  | _, [] =>
      match file with
      | some name => if name.isEmpty then .error .misuse else .ok (.decode name)
      | none => .error .misuse
  | literal, argument :: later =>
      if literal || spelling argument = .word then
        if file.isSome then .error .misuse else readDecode (some argument) literal later
      else if spelling argument = .dashes then
        readDecode file true later
      else if asksForHelp (spelling argument) && file ≠ some "" then
        .error (.help .decode)
      else
        .error .misuse

/-- The options of the command that simulates, as far as they are given. -/
structure Simulation where
  silent : Bool := false
  seconds : Option Nat := none

/-- Reads the options of the command that simulates; each may be given once. -/
def readSimulate (given : Simulation) (literal : Bool) (arguments : List String) :
    Except Halt Task :=
  match arguments with
  | [] => .ok (.simulate (!given.silent) (given.seconds.getD 1))
  | argument :: later =>
      if literal then
        .error .misuse
      else if asksForHelp (spelling argument) then
        .error (.help .simulate)
      else
        match spelling argument with
        | .dashes => readSimulate given true later
        | .long "no-answer" none =>
            if given.silent then .error .misuse
            else readSimulate { given with silent := true } false later
        | .long "duration" attached =>
            match read : takeValue? attached later with
            | some (value, rest) =>
                match Text.decimalBelow? UInt64.size value.toList, given.seconds with
                | some seconds, none =>
                    have : rest.length ≤ later.length := by
                      unfold takeValue? at read; split at read <;> grind
                    readSimulate { given with seconds := some seconds } false rest
                | _, _ => .error .misuse
            | none => .error .misuse
        | _ => .error .misuse
termination_by arguments.length

/-- Reads a command with its arguments. The command that helps has the name of another one for its
argument. -/
def readCommand (name : String) (arguments : List String) : Except Halt Task :=
  match name, arguments with
  | "decode", arguments => readDecode none false arguments
  | "simulate", arguments => readSimulate {} false arguments
  | "config", arguments => readConfig false arguments
  | "help", [] => .error (.help .tool)
  | "help", [command] =>
      match Page.ofName? command with
      | some page => .error (.help page)
      | none => .error .misuse
  | _, _ => .error .misuse

/-- The file that has been given once a file that was put off is looked at as well. It may be
given once and has to have a name. -/
def settle (given putOff : Option String) : Except Halt (Option String) :=
  match putOff with
  | none => .ok given
  | some file => if given.isSome || file.isEmpty then .error .misuse else .ok (some file)

/-- The plan for a task. The file with the settings may come from the environment. -/
def planFor (fallback given : Option String) (task : Task) : Except Halt Plan :=
  let file := given <|> fallback
  if file = some "" then .error .misuse else .ok ⟨file, task⟩

/-- What an option says about the file with the settings: its name, or that the name is the next
argument. -/
def settingsOption? : Spelling → Option (Option String)
  | .long "config" value => some value
  | .short 'c' rest => some (attached? rest)
  | _ => none

/-- What ends the reading at an option in front of the command that is not about the settings. -/
def haltAt (option : Spelling) : Halt :=
  match option with
  | .long "version" none | .short 'V' _ => .version
  | option => if asksForHelp option then .help .tool else .misuse

/-- Reads the arguments up to the name of the command, and the command behind it. -/
def readArguments (fallback given putOff : Option String) (arguments : List String) :
    Except Halt Plan :=
  match arguments with
  | [] => .error .misuse
  | argument :: later =>
      if spelling argument = .word then do
        let task ← readCommand argument later
        planFor fallback (← settle given putOff) task
      else
        match settle given putOff, settingsOption? (spelling argument), later with
        | .error halt, _, _ => .error halt
        | .ok _, none, _ => .error (haltAt (spelling argument))
        | .ok _, some none, [] => .error .misuse
        | .ok given, some none, file :: rest =>
            if spelling file = .word then readArguments fallback given (some file) rest
            else .error .misuse
        | .ok given, some (some file), later =>
            match settle given (some file) with
            | .ok given => readArguments fallback given none later
            | .error halt => .error halt
termination_by arguments.length

end RoomCall.Tool
