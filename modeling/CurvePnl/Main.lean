import CurvePnl.Command.Run

/-! # The program

Reads the files that a command looks at, runs it, and prints the outcome. Errors go to the error
stream and end the program with a code of their own: 1 for a command that fails, 2 for arguments
that make no command, 101 for a computation that aborts.
-/

namespace CurvePnl

/-- The variable that holds the path of a configuration for when none is given. -/
def presetVariable : String := "CURVE_PNL_CONFIG"

def versionText : String := "curve-pnl 0.1.0"

def usageText : String :=
  "Usage: curve-pnl [OPTIONS] <COMMAND>\n\n" ++
    "Commands:\n" ++
    "  attribute  Attribute a position's curve PnL to the curve's nodes\n" ++
    "  check      Validate an attribution configuration without running it\n" ++
    "  help       Print this message\n\n" ++
    "Options:\n" ++
    "  -f, --format <FORMAT>  Output format: table, json or csv\n" ++
    "  -q, --quiet            Only log warnings and errors\n" ++
    "  -c, --config <CONFIG>  Attribution configuration (.toml or .json)\n" ++
    "  -d, --data <DATA>      Directory of the data files (attribute only)\n" ++
    "  -h, --help             Print help\n" ++
    "  -V, --version          Print version"

namespace UsageProblem

/-- The problem in words. -/
def message : UsageProblem → String
  | noArguments | missingCommand => "a command is required"
  | unknownCommand => "unrecognized command"
  | unknownArgument => "unexpected argument"
  | missingArgument => "a configuration is required"
  | repeatedArgument => "an option cannot be given twice"
  | badValue => "an option has no value or an invalid one"
  | surplusValue => "an option takes no value"
  | help | version => ""

end UsageProblem

/-- What stands at a path of the file system. -/
def entryOf (path : String) : IO FileEntry := do
  try
    return .bytes (← IO.FS.readBinFile path).toList
  catch
    | .inappropriateType _ code _ =>
      return if code = 21 then .directory else .absent .belowFile
    | .invalidArgument _ code _ =>
      return if code = 36 then .absent .tooLong else .missing
    | _ => return .missing

def report (problem : UsageProblem) : IO UInt32 := do
  match problem with
  | .help => IO.println usageText; return 0
  | .version => IO.println versionText; return 0
  | problem =>
    IO.eprintln ("error: " ++ problem.message ++ "\n\n" ++ usageText)
    return 2

end CurvePnl

open CurvePnl in
def main (arguments : List String) : IO UInt32 := do
  match Invocation.parse (← IO.getEnv presetVariable) arguments with
  | .error problem => report problem
  | .ok invocation =>
    let entries ← invocation.paths.mapM fun path => return (path, ← entryOf path)
    match invocation.run fun path => (entries.lookup path).getD .missing with
    | .ok text => IO.print text; return 0
    | .error (.failed e) => IO.eprintln ("Error: " ++ e.message); return 1
    | .error .aborted => IO.eprintln "Error: a date leaves the calendar"; return 101
