import CurvePnl.Attribution.Run
import CurvePnl.JsonForm
import CurvePnl.Series.Returns

/-! # The configuration of a run

A configuration describes one attribution: the position, the curve, the window, and how currencies
are converted. It is valid if its names are not blank, its window is not reversed, and everything
that a choice of it needs is given.
-/

namespace CurvePnl

namespace ReturnKind

def all : List ReturnKind := [absolute, relative]

def text : ReturnKind → String
  | absolute => "absolute"
  | relative => "relative"

/-- The kind with exactly this name. -/
def ofText? (s : String) : Option ReturnKind := all.find? (·.text == s)

end ReturnKind

/-- The curve of a configuration. -/
structure ConfiguredCurve where
  name : CurveName
  currency : Currency
  /-- What the curve is constructed with if it is implied. -/
  construction : Option ConstructionName
  deriving Repr, DecidableEq

/-- The description of one attribution. -/
structure Configuration where
  position : Position
  curve : ConfiguredCurve
  /-- The curves whose nodes are implied, sorted and without repetition. -/
  impliedCurves : List CurveName
  outputCurrency : Option Currency
  /-- Whether implied profit and loss is converted at the spot rate of each date. -/
  historicalSpot : Bool
  returns : ReturnKind
  start : Date
  stop : Date
  /-- The date of sensitivities and snapshot rates, if it is not the end of the window. -/
  valuation : Option Date
  deriving DecidableEq

/-- What is wrong with a configuration. -/
inductive ConfigurationFault where
  | blankPosition
  | blankCurve
  | reversedWindow (start stop : Date)
  | missingConstruction
  | missingOutputCurrency
  /-- The window cannot be built. -/
  | window (error : ValueError)
  deriving DecidableEq

namespace ConfigurationFault

/-- The field at fault. -/
def field : ConfigurationFault → String
  | blankPosition => "position.id"
  | blankCurve => "curve.name"
  | reversedWindow .. | window _ => "window"
  | missingConstruction => "curve.construction_config"
  | missingOutputCurrency => "use_historical_spot"

def message : ConfigurationFault → String
  | blankPosition => "Position id cannot be empty"
  | blankCurve => "Curve name cannot be empty"
  | reversedWindow start stop => "Start " ++ start.text ++ " is after end " ++ stop.text
  | missingConstruction => "Implied curves need a construction configuration"
  | missingOutputCurrency => "Historical spot conversion requires an output currency"
  | window error => error.message

def text (f : ConfigurationFault) : String := f.field ++ ": " ++ f.message

end ConfigurationFault

/-- Why there is no configuration. -/
inductive ConfigurationError where
  | unreadable (path reason : String)
  /-- The file name ends in no known extension. -/
  | unknownFormat (extension? : Option String)
  /-- The text is no document of its format, or none of a configuration. -/
  | undecodable
  | invalid (first : ConfigurationFault) (others : List ConfigurationFault)
  deriving DecidableEq

namespace ConfigurationError

def message : ConfigurationError → String
  | unreadable path reason => "Cannot read configuration '" ++ path ++ "': " ++ reason
  | unknownFormat extension? =>
    "Unsupported configuration format: " ++ extension?.getD "<none>"
  | undecodable => "Deserialization error: text does not decode"
  | invalid fault [] => "Validation error: " ++ fault.text
  | invalid first others =>
    "Multiple validation errors: " ++
      "; ".intercalate ((first :: others).map ConfigurationFault.text)

end ConfigurationError

namespace Configuration

def isImplied (c : Configuration) : Bool := c.impliedCurves.contains c.curve.name

/-- The date of sensitivities and snapshot rates. -/
def valuationDate (c : Configuration) : Date := c.valuation.getD c.stop

def window (c : Configuration) : Except ConfigurationError DateWindow :=
  match DateWindow.new c.start c.stop with
  | .ok w => .ok w
  | .error e => .error (.invalid (.window e) [])

/-- A fault, if there is reason for it. -/
def faultIf (reason : Bool) (fault : ConfigurationFault) : List ConfigurationFault :=
  if reason then [fault] else []

/-- Everything that is wrong, in the order of the fields. -/
def faults (c : Configuration) : List ConfigurationFault :=
  faultIf (Text.allBlank c.position.id) .blankPosition ++
    faultIf (Text.allBlank c.curve.name) .blankCurve ++
    faultIf (decide (c.stop < c.start)) (.reversedWindow c.start c.stop) ++
    faultIf (c.isImplied && c.curve.construction.isNone) .missingConstruction ++
    faultIf (c.historicalSpot && c.outputCurrency.isNone) .missingOutputCurrency

def isValid (c : Configuration) : Bool := c.faults.isEmpty

/-- Succeeds for valid configurations; otherwise tells all that is wrong. -/
def check (c : Configuration) : Except ConfigurationError Unit :=
  match c.faults with
  | [] => .ok ()
  | first :: others => .error (.invalid first others)

/-- The configured curve. An implied curve without a construction is constructed under its own
name. -/
def identity (c : Configuration) : CurveIdentity :=
  if c.isImplied then .implied c.curve.name (c.curve.construction.getD c.curve.name)
  else .quoted c.curve.name

/-- The request that the configuration describes. -/
def request (c : Configuration) : Except AttributionError AttributionRequest :=
  match DateWindow.new c.start c.stop with
  | .error e => .error (.value e)
  | .ok window =>
    .ok {
      position := c.position
      curve := c.identity
      curveCurrency := c.curve.currency
      window
      outputCurrency := c.outputCurrency
      mode := .ofFlag c.historicalSpot }

end Configuration

end CurvePnl
