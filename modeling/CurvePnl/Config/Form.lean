import CurvePnl.Config.Basic
import CurvePnl.Store.File
import CurvePnl.Toml.Reader

/-! # Configurations as documents

A configuration is written as a JSON or a TOML document of the same shape; the extension of a file
name tells which. Configurations read from text are checked.
-/

namespace CurvePnl

/-- A format of configurations. -/
inductive DocumentFormat where
  | json
  | toml
  deriving Repr, DecidableEq

namespace DocumentFormat

def ofExtension? : String → Option DocumentFormat
  | "json" => some json
  | "toml" => some toml
  | _ => none

/-- Whether a value says in the format that nothing belongs to a name. -/
def isUnit : DocumentFormat → Json → Bool
  | json, .null => true
  | toml, .object [] => true
  | toml, .array [] => true
  | _, _ => false

end DocumentFormat

/-- Texts in increasing order, each once. -/
def sortedSet (texts : List String) : List String :=
  (texts.mergeSort fun a b => decide (a ≤ b)).foldr
    (fun s rest => if rest.head? == some s then rest else s :: rest) []

namespace Configuration

section Decoding

variable (isUnit : Json → Bool)

def currencyOf : Json → Decoded Currency := Decode.choice isUnit Currency.ofCode?

def positionOf (v : Json) : Decoded Position := do
  let currency := currencyOf isUnit
  let known ← Decode.record
    [Decode.field "id" Decode.text, Decode.field "pay_currency" currency,
      Decode.field "receive_currency" currency] v
  return {
    id := ← Decode.required known "id" Decode.text
    pay := ← Decode.required known "pay_currency" currency
    receive := ← Decode.required known "receive_currency" currency }

def curveOf (v : Json) : Decoded ConfiguredCurve := do
  let currency := currencyOf isUnit
  let construction := Decode.optional Decode.text
  let known ← Decode.record
    [Decode.field "name" Decode.text, Decode.field "currency" currency,
      Decode.trailingField "construction_config" construction] v
  return {
    name := ← Decode.required known "name" Decode.text
    currency := ← Decode.required known "currency" currency
    construction := ← Decode.defaulted known "construction_config" construction none }

/-- The ends of a window, which may be reversed. -/
def endsOf (v : Json) : Decoded (Date × Date) := do
  let known ← Decode.record
    [Decode.field "start" Date.ofJson, Decode.field "end" Date.ofJson] v
  return (← Decode.required known "start" Date.ofJson, ← Decode.required known "end" Date.ofJson)

/-- A configuration, which need not be valid. -/
def ofJson (v : Json) : Decoded Configuration := do
  let position := positionOf isUnit
  let curve := curveOf isUnit
  let names := Decode.list Decode.text
  let currency := Decode.optional (currencyOf isUnit)
  let returns := Decode.choice isUnit ReturnKind.ofText?
  let date := Decode.optional Date.ofJson
  let known ← Decode.record
    [Decode.field "position" position, Decode.field "curve" curve,
      Decode.trailingField "implied_curve_names" names,
      Decode.trailingField "output_currency" currency,
      Decode.trailingField "use_historical_spot" Decode.bool,
      Decode.trailingField "return_kind" returns, Decode.field "window" endsOf,
      Decode.trailingField "valuation_date" date] v
  let (start, stop) ← Decode.required known "window" endsOf
  return {
    position := ← Decode.required known "position" position
    curve := ← Decode.required known "curve" curve
    impliedCurves := sortedSet (← Decode.defaulted known "implied_curve_names" names [])
    outputCurrency := ← Decode.defaulted known "output_currency" currency none
    historicalSpot := ← Decode.defaulted known "use_historical_spot" Decode.bool false
    returns := ← Decode.defaulted known "return_kind" returns .absolute
    start
    stop
    valuation := ← Decode.defaulted known "valuation_date" date none }

end Decoding

/-- The configuration as a JSON object, with null for what is not given. -/
def toJson (c : Configuration) : Json :=
  .ofMembers
    [("position", .ofMembers
        [("id", .text c.position.id), ("pay_currency", c.position.pay.toJson),
          ("receive_currency", c.position.receive.toJson)]),
      ("curve", .ofMembers
        [("name", .text c.curve.name), ("currency", c.curve.currency.toJson),
          ("construction_config", .ofOption (c.curve.construction.map .text))]),
      ("implied_curve_names", .array (c.impliedCurves.map .text)),
      ("output_currency", .ofOption (c.outputCurrency.map Currency.toJson)),
      ("use_historical_spot", .bool c.historicalSpot),
      ("return_kind", .text c.returns.text),
      ("window", .ofMembers [("start", c.start.toJson), ("end", c.stop.toJson)]),
      ("valuation_date", .ofOption (c.valuation.map Date.toJson))]

/-- The configuration that a text writes, valid or not. -/
def decode? (format : DocumentFormat) (s : String) : Option Configuration :=
  match format with
  | .json => (Decode.ofText (ofJson DocumentFormat.json.isUnit) s).toOption
  | .toml => do
    let entries ← Toml.parse? s
    (ofJson DocumentFormat.toml.isUnit (.object (Toml.entriesToJson entries))).toOption

/-- The valid configuration that a text writes. -/
def parse (format : DocumentFormat) (s : String) : Except ConfigurationError Configuration :=
  match decode? format s with
  | none => .error .undecodable
  | some c => do
    c.check
    return c

/-- The valid configuration in a file. The file is read before the extension of its name is looked
at. -/
def ofFile (path : String) (extension? : Option String) (f : FileEntry) :
    Except ConfigurationError Configuration :=
  match f.text with
  | .error e => .error (.unreadable path e.message)
  | .ok s =>
    match extension?.bind DocumentFormat.ofExtension? with
    | none => .error (.unknownFormat extension?)
    | some format => parse format s

end Configuration

end CurvePnl
