import CurvePnl.Decimal.Binary

/-! # The fewest digits that read back

Every decimal inside the rounding interval of a double reads back as that double. On the grids
of one, two, ... seventeen digits the first one with a point in the interval gives the digits;
of two points the nearer wins, and an exact tie is left to the caller.
-/

namespace CurvePnl

/-- Which of two equally near numbers is taken. -/
inductive Tie where
  | toEven
  | up
  deriving Repr, DecidableEq

/-- The number `digits · 10 ^ exponent`. -/
structure Scientific where
  digits : Nat
  exponent : Int
  deriving Repr, DecidableEq

namespace Scientific

/-- The same number with no zero at the end of its digits. -/
def trimmed (s : Scientific) : Scientific :=
  let ds := Digit.ofNat s.digits
  let kept := Digit.dropTrailingZeros ds
  ⟨Digit.toNat kept, s.exponent + (ds.length - kept.length : Nat)⟩

end Scientific

namespace Double

/-- The numbers that round to a double, in units of a common denominator, which also measures
the double itself: `low` and `high` belong to the interval iff `closed`. -/
structure Interval where
  low : Nat
  value : Nat
  high : Nat
  denominator : Nat
  closed : Bool

/-- Half-way to the neighbours on both sides; below a power of two the neighbour is twice as
near. An end belongs to the interval iff the mantissa is even, since ties go to even. -/
def interval (mantissa : Nat) (exponent : Int) : Interval :=
  let nearBelow := mantissa == fullMantissa && exponent > leastExponent
  let q := exponent - 2
  let up : Nat := if q < 0 then 1 else Nat.pow 2 q.natAbs
  { low := (4 * mantissa - if nearBelow then 1 else 2) * up
    value := 4 * mantissa * up
    high := (4 * mantissa + 2) * up
    denominator := if q < 0 then Nat.pow 2 q.natAbs else 1
    closed := mantissa % 2 == 0 }

/-- Compares `a / b` with `10 ^ p`: whether it is below. -/
def belowPowerOfTen (a b : Nat) (p : Int) : Bool :=
  if p < 0 then a * Nat.pow 10 p.natAbs < b else a < b * Nat.pow 10 p.natAbs

/-- The least `p` with `a / b < 10 ^ p`, found near an estimate from the binary logarithms. -/
def decimalPoint (a b : Nat) : Int :=
  let guess : Int := ((a.log2 : Int) - b.log2 - 1) * 1233 / 4096
  if belowPowerOfTen a b guess then guess
  else if belowPowerOfTen a b (guess + 1) then guess + 1
  else guess + 2

/-- The point of the grid of step `10 ^ k` that lies in the interval, if one of the two
neighbours of the value does. -/
def onGrid? (tie : Tie) (i : Interval) (k : Int) : Option Scientific :=
  let scale (n : Nat) : Nat := if k < 0 then n * Nat.pow 10 k.natAbs else n
  let step := if k < 0 then i.denominator else i.denominator * Nat.pow 10 k.natAbs
  let below := scale i.value / step
  let above := below + 1
  let inside (n : Nat) : Bool :=
    let point := n * step
    if i.closed then scale i.low ≤ point && point ≤ scale i.high
    else scale i.low < point && point < scale i.high
  let rest := 2 * (scale i.value % step)
  let downWins := rest < step || (rest == step && tie == .toEven && below % 2 == 0)
  match inside below, inside above with
  | false, false => none
  | true, false => some ⟨below, k⟩
  | false, true => some ⟨above, k⟩
  | true, true => some ⟨if downWins then below else above, k⟩

/-- The fewest digits that read back as the positive double `mantissa · 2 ^ exponent`. -/
def shortest (tie : Tie) (mantissa : Nat) (exponent : Int) : Scientific :=
  let i := interval mantissa exponent
  let point := decimalPoint i.value i.denominator
  let hits := (List.range 17).filterMap fun (n : Nat) => onGrid? tie i (point - n - 1)
  match hits with
  | s :: _ => s.trimmed
  | [] => ⟨i.value, 0⟩

/-- The number rounded to a whole multiple of `10 ^ -places`, in such units, an exact half to
the even one. -/
def roundToPlaces (places mantissa : Nat) (exponent : Int) : Nat :=
  let (n, d) := scaleByTwo mantissa 1 (-exponent)
  roundDiv (n * Nat.pow 10 places) d

end Double

end CurvePnl
