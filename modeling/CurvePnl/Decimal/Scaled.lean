import CurvePnl.Decimal.Numeral

/-! # Doubles by scaling

The numbers of JSON documents are read in two steps: the leading digits that fit into 64 bits make
a whole number, which is rounded to a double, and this is multiplied or divided by a power of ten,
which rounds again. For up to 15 digits and small exponents the outcome is the nearest double.
-/

namespace CurvePnl

namespace Double

/-- The largest number of 64 bits. -/
def mostSignificand : Nat := UInt64.size - 1

/-- Appends digits to a significand as long as it fits; gives also the number of digits left. -/
def accumulate (n : Nat) : List Digit → Nat × Nat
  | [] => (n, 0)
  | d :: ds =>
    if 10 * n + d.val ≤ mostSignificand then accumulate (10 * n + d.val) ds
    else (n, ds.length + 1)

def powerOfTen (e : Nat) : Float := nearestDecimal false 1 e

/-- `x · 10 ^ e`, in steps of at most 308; none if it is too large. -/
def scale? (x : Float) (e : Int) : Option Float :=
  if e.natAbs ≤ 308 then
    if e < 0 then some (x / powerOfTen e.natAbs)
    else
      let y := x * powerOfTen e.natAbs
      if y.isInf then none else some y
  else if x == 0.0 then some x
  else if h : e < 0 then scale? (x / powerOfTen 308) (e + 308)
  else none
termination_by e.natAbs
decreasing_by omega

end Double

namespace Numeral

/-- The double that a number of a document stands for; none if it is too large. -/
def scaled? (n : Numeral) : Option Float := do
  let (significand, wholeLeft) := Double.accumulate 0 n.whole
  let (significand, fractionLeft) := Double.accumulate significand n.fraction
  let places : Int := (n.fraction.length - fractionLeft : Nat)
  let x ← Double.scale? (Double.nearest false significand 1) (wholeLeft - places + n.exponentValue)
  return if n.negative then -x else x

end Numeral

end CurvePnl
