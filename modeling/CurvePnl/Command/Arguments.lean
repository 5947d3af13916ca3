import CurvePnl.Report.TextTable

/-! # Command-line arguments

The arguments name a command and its options. Options stand before the command if they belong to
every command, and after it in any case. A value follows its option as the next argument, after an
equals sign, or directly after a short name; short names may be joined. After two hyphens nothing is
an option any more.

The value of an option is looked at when the next option is met or the arguments end. What is wrong
is told in that order, and a fault after the name of a command comes before one in front of it.
-/

namespace CurvePnl

/-- Why arguments run no command. -/
inductive UsageProblem where
  /-- There is nothing but the name of the program. -/
  | noArguments
  | missingCommand
  | unknownCommand
  | unknownArgument
  | missingArgument
  | repeatedArgument
  | badValue
  | surplusValue
  /-- Help is asked for. -/
  | help
  /-- The version is asked for. -/
  | version
  deriving Repr, DecidableEq

/-- An option of the command line. -/
inductive Flag where
  | format | quiet | config | data | help | version
  deriving Repr, DecidableEq

namespace Flag

def long : Flag → String
  | format => "format"
  | quiet => "quiet"
  | config => "config"
  | data => "data"
  | help => "help"
  | version => "version"

def short : Flag → Char
  | format => 'f'
  | quiet => 'q'
  | config => 'c'
  | data => 'd'
  | help => 'h'
  | version => 'V'

def takesValue : Flag → Bool
  | format | config | data => true
  | quiet | help | version => false

/-- Whether a value will do for the option. A path must not be empty. -/
def accepts (flag : Flag) (value : String) : Bool :=
  match flag with
  | format => (OutputFormat.ofText? value).isSome
  | config | data => value != ""
  | quiet | help | version => true

end Flag

/-- The name of a command. -/
inductive CommandName where
  | attribution
  | check
  deriving Repr, DecidableEq

namespace CommandName

def ofText? : String → Option CommandName
  | "attribute" => some attribution
  | "check" => some check
  | _ => none

end CommandName

/-- The name that asks for help instead of a command. -/
def helpName : String := "help"

/-- The options that are known in front of the command, or behind it. -/
def flagsOf : Option CommandName → List Flag
  | none => [.format, .quiet, .help, .version]
  | some .attribution => [.format, .quiet, .config, .data, .help, .version]
  | some .check => [.format, .quiet, .config, .help, .version]

/-- The options read so far. The last may still lack its value, or have one that was not looked at
yet. -/
structure GivenFlags where
  settled : List (Flag × String)
  open? : Option (Flag × Option String)
  deriving Repr, DecidableEq

namespace GivenFlags

def empty : GivenFlags := ⟨[], none⟩

/-- Whether the next argument may be a value. -/
def awaitsValue (g : GivenFlags) : Bool :=
  match g.open? with
  | some (_, none) => true
  | _ => false

def value? (g : GivenFlags) (flag : Flag) : Option String := g.settled.lookup flag

/-- Adds an option with its value. -/
def add (g : GivenFlags) (flag : Flag) (value : String) : Except UsageProblem GivenFlags :=
  if (g.value? flag).isSome then .error .repeatedArgument
  else if flag.accepts value then .ok { g with settled := g.settled ++ [(flag, value)] }
  else .error .badValue

/-- Looks at the value of the last option. -/
def settle (g : GivenFlags) : Except UsageProblem GivenFlags :=
  match g.open? with
  | none => .ok g
  | some (_, none) => .error .badValue
  | some (flag, some value) => ({ g with open? := none }).add flag value

/-- Enters an option without a value. -/
def enter (g : GivenFlags) (flag : Flag) : Except UsageProblem GivenFlags := do
  let g ← g.settle
  match flag with
  | .help => .error .help
  | .version => .error .version
  | _ => g.add flag ""

/-- Enters an option together with its value. -/
def enterWith (g : GivenFlags) (flag : Flag) (value : String) :
    Except UsageProblem GivenFlags := do
  (← g.settle).add flag value

/-- Enters an option whose value is still to come. -/
def enterOpen (g : GivenFlags) (flag : Flag) : Except UsageProblem GivenFlags := do
  return { (← g.settle) with open? := some (flag, none) }

/-- Enters an option under its long name, with the text after an equals sign if there is one. -/
def enterLong (g : GivenFlags) (flags : List Flag) (name : String) (attached : Option String) :
    Except UsageProblem GivenFlags :=
  match flags.find? (·.long == name), attached with
  | none, _ => .error .unknownArgument
  | some flag, none => if flag.takesValue then g.enterOpen flag else g.enter flag
  | some flag, some value =>
    if flag.takesValue then g.enterWith flag value else .error .surplusValue

/-- Enters the options of joined short names. The rest after one that takes a value is the value. -/
def enterShort (flags : List Flag) : GivenFlags → List Char → Except UsageProblem GivenFlags
  | g, [] => .ok g
  | g, c :: cs =>
    match flags.find? (·.short == c) with
    | none => .error .unknownArgument
    | some flag =>
      if flag.takesValue then
        match cs with
        | [] => g.enterOpen flag
        | '=' :: cs => g.enterWith flag (String.ofList cs)
        | cs => g.enterWith flag (String.ofList cs)
      else do enterShort flags (← g.enter flag) cs

end GivenFlags

/-- What an argument looks like. -/
inductive ArgumentShape where
  | separator
  | long (name : String) (attached : Option String)
  | short (names : List Char)
  | word
  deriving Repr, DecidableEq

namespace ArgumentShape

def of (argument : String) : ArgumentShape :=
  match argument.toList with
  | ['-', '-'] => separator
  | '-' :: '-' :: cs =>
    match cs.dropWhile (· != '=') with
    | [] => long (String.ofList cs) none
    | _ :: value => long (String.ofList (cs.takeWhile (· != '='))) (some (String.ofList value))
  | '-' :: c :: cs => short (c :: cs)
  | _ => word

end ArgumentShape

/-- What the arguments in front of a command end with. -/
inductive Turn where
  /-- A command, and the arguments behind it. -/
  | command (name : CommandName) (rest : List String)
  /-- A call for help, and the arguments behind it. -/
  | help (rest : List String)
  | finished
  deriving Repr, DecidableEq

/-- The command that an argument turns to, which is looked for in front of the command only. -/
def turn? (command : Option CommandName) (argument : String) (rest : List String) :
    Option Turn :=
  match command with
  | some _ => none
  | none =>
    if argument = helpName then some (.help rest)
    else (CommandName.ofText? argument).map fun name => .command name rest

/-- The problem with an argument that is neither an option nor a value. -/
def strayProblem (command : Option CommandName) (separated : Bool) (argument : String) :
    UsageProblem :=
  match command with
  | some _ => .unknownArgument
  | none =>
    if separated && (turn? none argument []).isSome then .unknownArgument else .unknownCommand

/-- Reads arguments until a command is met or they end. -/
def readFlags (command : Option CommandName) (separated : Bool) (g : GivenFlags) :
    List String → Except UsageProblem (GivenFlags × Turn)
  | [] => .ok (g, .finished)
  | argument :: rest =>
    if separated then .error (strayProblem command separated argument)
    else
      match if g.awaitsValue then none else turn? command argument rest with
      | some turn => .ok (g, turn)
      | none =>
        match ArgumentShape.of argument with
        | .separator => readFlags command true g rest
        | .long name attached => do
          readFlags command false (← g.enterLong (flagsOf command) name attached) rest
        | .short names => do
          readFlags command false (← GivenFlags.enterShort (flagsOf command) g names) rest
        | .word =>
          match g.open? with
          | some (flag, none) =>
            readFlags command false { g with open? := some (flag, some argument) } rest
          | _ => .error (strayProblem command separated argument)

/-- A command with its own options. -/
inductive Command where
  /-- Attributes by the configuration at a path, from the data in a directory. -/
  | attribution (config data : String)
  /-- Checks the configuration at a path. -/
  | check (config : String)
  deriving Repr, DecidableEq

/-- A command with the options of every command. -/
structure Invocation where
  command : Command
  format : OutputFormat
  quiet : Bool
  deriving Repr, DecidableEq

namespace Invocation

/-- The directory of data unless another is given. -/
def standardData : String := "."

/-- The path of the configuration: the one given, or else the one set for all runs. -/
def configPath (g : GivenFlags) (preset : Option String) : Except UsageProblem String :=
  match g.value? .config, preset with
  | some path, _ => .ok path
  | none, some path => if Flag.config.accepts path then .ok path else .error .badValue
  | none, none => .error .missingArgument

/-- The command of its name with the options behind it. -/
def commandOf (g : GivenFlags) (preset : Option String) : CommandName → Except UsageProblem Command
  | .attribution => do
    return .attribution (← configPath g preset) ((g.value? .data).getD standardData)
  | .check => do return .check (← configPath g preset)

/-- Help is given for the program and for each command. -/
def helpProblem : List String → UsageProblem
  | [] => .help
  | [name] => if (turn? none name []).isSome then .help else .unknownCommand
  | _ => .unknownCommand

/-- The invocation that arguments write. `preset` is the path of a configuration for when none is
given. -/
def parse (preset : Option String) (arguments : List String) :
    Except UsageProblem Invocation := do
  match ← readFlags none false .empty arguments with
  | (_, .help rest) => .error (helpProblem rest)
  | (g, .finished) =>
    let g ← g.settle
    .error (if g.settled.isEmpty then .noArguments else .missingCommand)
  | (front, .command name rest) =>
    let (back, _) ← readFlags (some name) false .empty rest
    let back ← back.settle
    let command ← commandOf back preset name
    let front ← front.settle
    let format := (back.value? .format).orElse fun _ => front.value? .format
    return {
      command
      format := (format.bind OutputFormat.ofText?).getD .table
      quiet := (back.value? .quiet).isSome || (front.value? .quiet).isSome }

end Invocation

end CurvePnl
