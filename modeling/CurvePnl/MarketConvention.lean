import CurvePnl.Currency
import CurvePnl.SourceError

/-! # Market conventions

Which currency of a pair is the base: the earlier in a list of priorities. Currencies outside of
the list come after it, in the order of their codes.
-/

namespace CurvePnl.MarketConvention

/-- The base currencies, highest priority first. -/
def priority : List Currency :=
  [.eur, .gbp, .aud, .nzd, .usd, .cad, .chf, .jpy]

/-- Whether `a` goes before `b`. -/
def isBefore (a b : Currency) : Bool :=
  let i := priority.idxOf a
  let j := priority.idxOf b
  decide (i < j) || (i == j && decide (a.code ≤ b.code))

/-- The market quoting order of a pair, which must have two different currencies. -/
def pair (p : UnorderedPair) : Except SourceError CurrencyPair :=
  if p.first = p.second then .error ⟨.invalidInput, "degenerate pair " ++ p.text⟩
  else if isBefore p.first p.second then .ok ⟨p.first, p.second⟩
  else .ok ⟨p.second, p.first⟩

end CurvePnl.MarketConvention
