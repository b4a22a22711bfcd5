import RoomCall.Tool.Arguments

/-!
# The pages of help

Each page says what a command is for, how it is called, and what its arguments and options mean.
-/

namespace RoomCall.Tool

/-- The name and version of the tool. -/
def versionLine : String := "matrix-call-cli 0.3.4"

/-- The variable of the environment that may name the file with the settings. -/
def settingsVariable : String := "MATRIX_CALL_CONFIG"

/-- The lines about the option for the file with the settings. What the environment says may have
several lines; they stand below each other. -/
def settingsLines (fallback : Option String) : List String :=
  let note := "[env: " ++ settingsVariable ++ "=" ++ fallback.getD "" ++ "]"
  let title := "  -c, --config <CONFIG>  "
  match note.splitOn "\n" with
  | first :: later =>
      (title ++ "JSON file with a call service configuration " ++ first) ::
        later.map (String.ofList (List.replicate title.length ' ') ++ ·)
  | [] => []

/-- The lines of a page. The first page shows what the environment says. -/
def Page.lines (fallback : Option String) : Page → List String
  | .tool =>
      ["Command-line tools for the Matrix call engine", "",
        "Usage: matrix-call [OPTIONS] <COMMAND>", "",
        "Commands:",
        "  decode    Decode `m.call.*` room events from a JSON file (one event or an array)",
        "  simulate  Run a call between two simulated devices in one process",
        "  config    Print the effective configuration",
        "  help      Print this message or the help of the given subcommand(s)", "",
        "Options:"] ++ settingsLines fallback ++
        ["  -h, --help             Print help",
        "  -V, --version          Print version"]
  | .decode =>
      ["Decode `m.call.*` room events from a JSON file (one event or an array)", "",
        "Usage: matrix-call decode <FILE>", "",
        "Arguments:",
        "  <FILE>  File with the events", "",
        "Options:",
        "  -h, --help  Print help"]
  | .simulate =>
      ["Run a call between two simulated devices in one process", "",
        "Usage: matrix-call simulate [OPTIONS]", "",
        "Options:",
        "      --no-answer            Leave the call ringing instead of answering it",
        "      --duration <DURATION>  Seconds to stay connected before hanging up [default: 1]",
        "  -h, --help                 Print help"]
  | .config =>
      ["Print the effective configuration", "",
        "Usage: matrix-call config", "",
        "Options:",
        "  -h, --help  Print help"]
  | .help =>
      ["Print this message or the help of the given subcommand(s)", "",
        "Usage: matrix-call help [COMMAND]...", "",
        "Arguments:",
        "  [COMMAND]...  Print help for the subcommand(s)"]

end RoomCall.Tool
