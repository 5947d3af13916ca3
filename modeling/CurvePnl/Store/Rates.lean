import CurvePnl.JsonForm
import CurvePnl.Store.File

/-! # The table of snapshot rates

A rate from one currency to another is the amount of the second for one unit of the first. It also
answers for the opposite direction, by its inverse, unless that has a rate of its own.
-/

namespace CurvePnl

/-- The rates by pair of currencies, each pair once. -/
structure RateTable (α : Type) where
  rates : List ((Currency × Currency) × α)

namespace RateTable

def empty : RateTable α := ⟨[]⟩

/-- The table with a rate, which replaces an earlier one of the same direction. -/
def insert (t : RateTable α) (native output : Currency) (rate : α) : RateTable α :=
  ⟨((native, output), rate) :: t.rates.filter (·.1 != (native, output))⟩

/-- The rate between two currencies. -/
def rate [Quantity α] (t : RateTable α) (native output : Currency) : Except SourceError α :=
  if native = output then .ok Quantity.one
  else
    match t.rates.lookup (native, output), t.rates.lookup (output, native) with
    | some r, _ => .ok r
    | none, some r => .ok (Quantity.one / r)
    | none, none =>
      let direction : CurrencyPair := ⟨native, output⟩
      .error ⟨.missingData, "no FX rate " ++ direction.text⟩

end RateTable

/-- A rate as it stands in a file. -/
structure RateRow where
  native : Currency
  output : Currency
  rate : Float

namespace RateRow

def ofJson (v : Json) : Decoded RateRow := do
  let known ← Decode.record
    [Decode.field "from" Currency.ofJson, Decode.field "to" Currency.ofJson,
      Decode.field "rate" Decode.number] v
  return {
    native := ← Decode.required known "from" Currency.ofJson
    output := ← Decode.required known "to" Currency.ofJson
    rate := ← Decode.required known "rate" Decode.number }

/-- A rate of a file has to be finite and positive. -/
def check (r : RateRow) : Except SourceError Unit :=
  if r.rate.isFinite && 0.0 < r.rate then .ok ()
  else
    .error ⟨.unreadable,
      "rate " ++ r.native.code ++ r.output.code ++ " must be positive, got " ++ plainText r.rate⟩

end RateRow

namespace RateTable

/-- The table of the rows of a file; of several for one direction the last counts. -/
def addRows (t : RateTable Float) : List RateRow → Except SourceError (RateTable Float)
  | [] => .ok t
  | r :: rest => do
    r.check
    addRows (t.insert r.native r.output r.rate) rest

end RateTable

namespace FileEntry

/-- The table of a file; a missing file is an empty table. -/
def rateTable (f : FileEntry) : Except (Halt SourceError) (RateTable Float) :=
  if f.isMissing then .ok .empty
  else do Halt.report (RateTable.empty.addRows (← f.decoded (Decode.list RateRow.ofJson)))

end FileEntry

end CurvePnl
