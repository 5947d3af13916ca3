import CurvePnl.Decimal.Digit

/-! # Doubles as exact numbers

A finite double is a whole multiple of a power of two. `Double.ofFloat` takes it apart into
those two whole numbers, and `nearest` goes the other way: it rounds any fraction to the double
nearest to it, an exact half to the even neighbour.
-/

namespace CurvePnl

/-- What a double stands for: finite ones are `mantissa · 2 ^ exponent`. -/
inductive Double where
  | notANumber
  | infinite (negative : Bool)
  | finite (negative : Bool) (mantissa : Nat) (exponent : Int)
  deriving Repr, DecidableEq

namespace Double

/-- The exponent of the smallest positive double. -/
def leastExponent : Int := -1074

/-- The first mantissa of full precision: normal doubles have mantissas from here to twice it. -/
def fullMantissa : Nat := Nat.pow 2 52

/-- Takes a double apart. The biased exponent 0 holds the doubles below full precision. -/
def ofFloat (x : Float) : Double :=
  let bits := x.toBits.toNat
  let negative := bits / Nat.pow 2 63 == 1
  let biased := bits / fullMantissa % 2048
  let field := bits % fullMantissa
  if biased = 2047 then
    if field = 0 then .infinite negative else .notANumber
  else if biased = 0 then .finite negative field leastExponent
  else .finite negative (field + fullMantissa) (biased - 1075)

/-- A quotient rounded to the nearest whole number, an exact half to the even one. -/
def roundDiv (num den : Nat) : Nat :=
  let quotient := num / den
  let rest := 2 * (num % den)
  if rest < den || (rest == den && quotient % 2 == 0) then quotient else quotient + 1

/-- The fraction `num · 2 ^ -q / den` as a numerator and a denominator. -/
def scaleByTwo (num den : Nat) (q : Int) : Nat × Nat :=
  if q < 0 then (num * Nat.pow 2 q.natAbs, den) else (num, den * Nat.pow 2 q.natAbs)

/-- The exponent that gives `num / den` a mantissa of full precision, or the least exponent
where there is none that small. -/
def exponentFor (num den : Nat) : Int :=
  let guess : Int := (num.log2 : Int) - den.log2 - 52
  let (n, d) := scaleByTwo num den guess
  max leastExponent (if n < fullMantissa * d then guess - 1 else guess)

/-- The double nearest to `num / den`. The bits of the exponent follow those of the mantissa, so
that a mantissa that rounds up to the next power of two carries into the exponent by itself, and
what is too large ends at the bits of infinity. -/
def nearest (negative : Bool) (num den : Nat) : Float :=
  let sign : Nat := if negative then Nat.pow 2 63 else 0
  if num = 0 then Float.ofBits (UInt64.ofNat sign)
  else
    let q := exponentFor num den
    let (n, d) := scaleByTwo num den q
    let bits := roundDiv n d + (q - leastExponent).toNat * fullMantissa
    Float.ofBits (UInt64.ofNat (sign + min bits (2047 * fullMantissa)))

/-- The double nearest to `significand · 10 ^ exponent`. Exponents that leave the range of
doubles, whatever the digits, are cut off before the power is taken. -/
def nearestDecimal (negative : Bool) (significand : Nat) (exponent : Int) : Float :=
  let magnitude : Int := (Digit.ofNat significand).length + exponent
  if significand = 0 || magnitude < -400 then nearest negative 0 1
  else if magnitude > 400 then nearest negative (Nat.pow 2 1100) 1
  else if exponent < 0 then nearest negative significand (Nat.pow 10 exponent.natAbs)
  else nearest negative (significand * Nat.pow 10 exponent.natAbs) 1

end Double

end CurvePnl
