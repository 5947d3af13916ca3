import CurvePnl.Config.Form
import CurvePnl.Csv.Writer
import CurvePnl.Report.TextTable

/-! # The settings of a run

What a configuration amounts to, as pairs of a name and a value. The window with its lead is one of
them, so there are none if that leaves the range of dates.
-/

namespace CurvePnl

/-- A named setting. -/
structure Setting where
  name : String
  value : String
  deriving Repr, DecidableEq

namespace ConversionMode

/-- The mode in words. -/
def text : ConversionMode → String
  | historicalSpot => "historical spot"
  | snapshot => "snapshot"

end ConversionMode

namespace Setting

def ofCurve : CurveIdentity → List Setting
  | .quoted _ => [⟨"Nodes", "quoted"⟩]
  | .implied _ construction => [⟨"Nodes", "implied"⟩, ⟨"Construction", construction⟩]

/-- The conversion mode, which matters only for implied curves with an output currency. -/
def ofConversion (request : AttributionRequest) : List Setting :=
  if request.curve.isImplied && request.outputCurrency.isSome then
    [⟨"FX conversion", request.mode.text⟩]
  else []

/-- The settings of a request and of the configuration that describes it. -/
def all? (c : Configuration) (request : AttributionRequest) : Option (List Setting) := do
  let fetched ← request.window.fetched?
  let position := request.position
  return [
    ⟨"Position", position.id⟩,
    ⟨"Currencies", "pays " ++ position.pay.code ++ " / receives " ++ position.receive.code⟩,
    ⟨"Curve", request.curve.name⟩,
    ⟨"Curve currency", request.curveCurrency.code⟩] ++
    ofCurve request.curve ++ [
    ⟨"Window", request.window.text⟩,
    ⟨"Fetch window", fetched.text⟩,
    ⟨"Valuation date", c.valuationDate.text⟩,
    ⟨"Output currency", (request.outputCurrency.map Currency.code).getD "native"⟩] ++
    ofConversion request ++ [
    ⟨"Returns", c.returns.text⟩]

def table (settings : List Setting) : String :=
  TextTable.draw
    [⟨.left, "Setting", settings.map Setting.name⟩, ⟨.left, "Value", settings.map Setting.value⟩]
    settings.length ++ "\n"

/-- The settings as the members of an object, in the order of their names. -/
def toJson (settings : List Setting) : Json :=
  .ofMembers
    ((settings.mergeSort fun a b => decide (a.name ≤ b.name)).map fun s => (s.name, .text s.value))

def csv (settings : List Setting) : String :=
  Csv.write (["key", "value"] :: settings.map fun s => [s.name, s.value])

/-- The settings of the configuration at a path, as printed. -/
def print (path : String) (settings : List Setting) : OutputFormat → String
  | .table => "✓ " ++ path ++ " is valid\n" ++ table settings
  | .json => (toJson settings).pretty ++ "\n"
  | .csv => csv settings

end Setting

end CurvePnl
