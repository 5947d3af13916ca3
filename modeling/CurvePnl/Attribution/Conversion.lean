import CurvePnl.Attribution.Sources
import CurvePnl.Series.Product

/-! # Currency conversion

Profit and loss is converted in one of two ways: each sample by the spot rate of its own date, or
all samples by one rate as of the valuation date. Without an output currency, or with the native
one, nothing is converted.
-/

namespace CurvePnl

/-- Which rates convert profit and loss. -/
inductive ConversionMode where
  | historicalSpot
  | snapshot
  deriving Repr, DecidableEq, Inhabited

namespace ConversionMode

/-- The mode that is used unless another is asked for. -/
def standard : ConversionMode := snapshot

def ofFlag (useHistoricalSpot : Bool) : ConversionMode :=
  if useHistoricalSpot then historicalSpot else snapshot

end ConversionMode

/-- The output currency, if it calls for a conversion. -/
def conversionNeeded (native : Currency) (output : Option Currency) : Option Currency :=
  output.filter (· != native)

/-- How profit and loss is converted. -/
inductive Conversion (α : Type) where
  | identity
  | historicalSpot (series : DateSeries α)
  | snapshot (rate : α)

namespace Conversion

def isIdentity : Conversion α → Bool
  | identity => true
  | _ => false

/-- Converts a series. Spot rates divide the samples of their dates; samples without a rate are
dropped, and each is noted. A snapshot rate multiplies all samples. -/
def apply [Quantity α] (c : Conversion α) (pnl : DateSeries α) : Work α (DateSeries α) :=
  match c with
  | identity => return pnl
  | historicalSpot series => do
    let missing := pnl.dates.filter fun d => (series.valueOn? d).isNone
    missing.forM fun d => Work.note (.spotMissing d)
    let inverted ← Work.ofValues series.reciprocal
    return pnl.multiplyCommon inverted
  | snapshot rate => return pnl.scale rate

end Conversion

namespace Sources

variable {α : Type} [Quantity α] (s : Sources α)

/-- The history of the rate between two currencies, in output currency for one unit of native
currency. The pair is quoted in one order only; in the other order the rates are inverted. -/
def conversionSeries (native output : Currency) (window : DateWindow) :
    Work α (DateSeries α) := do
  let unordered := UnorderedPair.of native output
  let pair ← Work.require .currencyPairs unordered.text (← s.askPair unordered)
  let series ← Work.require .historicalMarketData pair.code (← s.askFxHistory pair window)
  Work.note (.conversionLoaded pair native output series.size)
  if pair.base = native then return series else Work.ofValues series.reciprocal

/-- The rate between two currencies on the valuation date. -/
def snapshotRate (native output : Currency) (on : Date) : Work α α := do
  let rate ← s.askFxRate native output on
  Work.require .fxMatrix (native.code ++ "->" ++ output.code) rate

/-- The conversion that an output currency calls for. -/
def pnlConversion (native : Currency) (output : Option Currency) (mode : ConversionMode)
    (window : DateWindow) (on : Date) : Work α (Conversion α) :=
  match conversionNeeded native output with
  | none => return .identity
  | some output =>
    match mode with
    | .historicalSpot => return .historicalSpot (← s.conversionSeries native output window)
    | .snapshot => return .snapshot (← s.snapshotRate native output on)

end Sources

end CurvePnl
