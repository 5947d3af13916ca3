import CurvePnl.Command.Arguments
import CurvePnl.Report.Attribution
import CurvePnl.Report.Settings
import CurvePnl.Store.DataSet

/-! # Running a command

A command reads files and yields the text that it prints. Nothing is printed by a command that
fails.
-/

namespace CurvePnl

/-- Why a command fails. -/
inductive CommandError where
  | configuration (error : ConfigurationError)
  | data (fault : DataFault)
  | missingDirectory (path : String)
  | attribution (error : AttributionError)
  deriving DecidableEq

namespace CommandError

def message : CommandError → String
  | configuration error => "Configuration error: " ++ error.message
  | data fault => "Cannot load " ++ fault.path ++ ": " ++ fault.error.message
  | missingDirectory path => "Data directory not found: " ++ path
  | attribution error => "Attribution failed: " ++ error.message

end CommandError

/-- The extension of the file that a path names: what follows the last dot of its name, unless the
dot starts the name. -/
def extension? (path : String) : Option String :=
  let name := (path.splitOn "/").getLastD ""
  match name.splitOn "." with
  | [] | [_] | ["", _] => none
  | parts => parts.getLast?

namespace Command

/-- A result with its error told as an error of the command. -/
def orFail (wrap : ε → CommandError) : Except (Halt ε) β → Except (Halt CommandError) β
  | .ok b => .ok b
  | .error h => .error (h.map wrap)

/-- The configuration at a path. -/
def configurationAt (entry : String → FileEntry) (path : String) :
    Except (Halt CommandError) Configuration :=
  orFail .configuration (Halt.report (Configuration.ofFile path (extension? path) (entry path)))

def requestOf (c : Configuration) : Except (Halt CommandError) AttributionRequest :=
  orFail .attribution (Halt.report c.request)

/-- Attributes with the data of a directory, and prints the report. -/
def runAttribution (entry : String → FileEntry) (format : OutputFormat) (config data : String) :
    Except (Halt CommandError) String := do
  let c ← configurationAt entry config
  if entry data ≠ .directory then throw (.failed (.missingDirectory data))
  let request ← requestOf c
  let files ← orFail .data (DataSet.load entry data)
  let (context, tokens) := ValuationContext.create .none c.valuationDate
  let (done, _, _) := (files.sources c.returns).run request context tokens
  return (AttributionReport.new request (← orFail .attribution done)).print format

/-- Checks a configuration, and prints its settings. -/
def runCheck (entry : String → FileEntry) (format : OutputFormat) (config : String) :
    Except (Halt CommandError) String := do
  let c ← configurationAt entry config
  let request ← requestOf c
  let settings ← Halt.orAbort (Setting.all? c request)
  return Setting.print config settings format

end Command

namespace Invocation

/-- What the command prints, when `entry` tells what stands at a path. -/
def run (i : Invocation) (entry : String → FileEntry) : Except (Halt CommandError) String :=
  match i.command with
  | .attribution config data => Command.runAttribution entry i.format config data
  | .check config => Command.runCheck entry i.format config

/-- The paths that the command may look at. -/
def paths (i : Invocation) : List String :=
  match i.command with
  | .attribution config data => config :: data :: DataFile.all.map (DataFile.path data)
  | .check config => [config]

end Invocation

end CurvePnl
