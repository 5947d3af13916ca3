import CurvePnl.Date.Text
import CurvePnl.Json.Decode
import CurvePnl.Json.Writer
import CurvePnl.Matrix
import CurvePnl.Sensitivity
import CurvePnl.Window

/-! # The JSON forms of values

How dates, tenors, currencies, windows, series, matrices and sensitivities stand in documents.
-/

namespace CurvePnl

namespace Date

def toJson (d : Date) : Json := .text d.text

/-- A date in a document: a text, with blanks allowed around its numbers and hyphens. -/
def ofJson (v : Json) : Decoded Date := do Decode.ofOption (ofText? .loose (← Decode.text v))

end Date

namespace Tenor

def toJson (t : Tenor) : Json := .text t.text

/-- A tenor in a document. A text that aborts the reading of a tenor aborts the decoding. -/
def ofJson (v : Json) : Decoded Tenor := do Decode.ofHalting (parse (← Decode.text v))

end Tenor

namespace Currency

def toJson (c : Currency) : Json := .text c.code

/-- A currency in a document: its exact code. -/
def ofJson (v : Json) : Decoded Currency := Decode.choice Decode.isNull ofCode? v

end Currency

namespace DateWindow

def toJson (w : DateWindow) : Json :=
  .ofMembers [("start", w.first.toJson), ("end", w.last.toJson)]

def ofJson (v : Json) : Decoded DateWindow := do
  let known ← Decode.record
    [Decode.field "start" Date.ofJson, Decode.field "end" Date.ofJson] v
  let first ← Decode.required known "start" Date.ofJson
  let last ← Decode.required known "end" Date.ofJson
  Decode.ofExcept (new first last)

end DateWindow

namespace DateSeries

def toJson (s : DateSeries Float) : Json :=
  .ofMembers
    [("dates", .array (s.dates.map Date.toJson)), ("values", .array (s.values.map .ofFloat))]

def ofJson (v : Json) : Decoded (DateSeries Float) := do
  let dates := Decode.list Date.ofJson
  let values := Decode.list Decode.number
  let known ← Decode.record [Decode.field "dates" dates, Decode.field "values" values] v
  Decode.ofExcept
    (new (← Decode.required known "dates" dates) (← Decode.required known "values" values))

end DateSeries

namespace PnlMatrix

def toJson (m : PnlMatrix Float) : Json :=
  .ofMembers
    [("keys", .array (m.keys.map Tenor.toJson)), ("labels", .array (m.labels.map .text)),
      ("series", .array (m.series.map DateSeries.toJson))]

end PnlMatrix

namespace SensitivityBundle

def entryToJson (e : SensitivityEntry Float) : Json :=
  .ofMembers
    [("curve", .text e.curve), ("currency", e.currency.toJson),
      ("values", .array (e.vector.map .ofFloat))]

def entryOfJson (v : Json) : Decoded (SensitivityEntry Float) := do
  let values := Decode.list Decode.number
  let known ← Decode.record
    [Decode.field "curve" Decode.text, Decode.field "currency" Currency.ofJson,
      Decode.field "values" values] v
  return {
    curve := ← Decode.required known "curve" Decode.text
    currency := ← Decode.required known "currency" Currency.ofJson
    vector := ← Decode.required known "values" values }

def toJson (b : SensitivityBundle Float) : Json := .array (b.entries.map entryToJson)

/-- The entries of a document as they stand there. -/
def ofJson (v : Json) : Decoded (SensitivityBundle Float) := do
  return ⟨← Decode.list entryOfJson v⟩

end SensitivityBundle

namespace CurveNode

/-- A node whose name may be missing. -/
def ofJson (v : Json) : Decoded CurveNode := do
  let name := Decode.optional Decode.text
  let known ← Decode.record
    [Decode.field "key" Decode.text, Decode.field "maturity" Tenor.ofJson,
      Decode.trailingField "name" name] v
  return {
    key := ← Decode.required known "key" Decode.text
    maturity := ← Decode.required known "maturity" Tenor.ofJson
    name := ← Decode.defaulted known "name" name none }

end CurveNode

namespace CurveSpecification

def ofJson (v : Json) : Decoded CurveSpecification := do
  let nodes := Decode.list CurveNode.ofJson
  let known ← Decode.record [Decode.field "curve" Decode.text, Decode.field "nodes" nodes] v
  return {
    curve := ← Decode.required known "curve" Decode.text
    nodes := ← Decode.required known "nodes" nodes }

end CurveSpecification

end CurvePnl
