import CurvePnl.Decimal.Shortest

/-! # Numerals

A numeral is a number as it is written: a sign, digits before and after the point, an exponent.
A layout says how a double becomes one; this library has two, for documents and for cells.
-/

namespace CurvePnl

/-- The sign in front of an exponent. -/
inductive Sign where
  | plus
  | minus
  deriving Repr, DecidableEq

/-- A written decimal number. No fraction digits means that there is no point, and `whole` may
be empty only where a reader allows it. -/
structure Numeral where
  negative : Bool
  whole : List Digit
  fraction : List Digit
  exponent : Option (Option Sign × List Digit)
  deriving Repr, DecidableEq

namespace Numeral

def ofNat (n : Nat) : Numeral := ⟨false, Digit.ofNat n, [], none⟩

def ofInt (n : Int) : Numeral := ⟨decide (n < 0), Digit.ofNat n.natAbs, [], none⟩

def exponentText : Option (Option Sign × List Digit) → String
  | none => ""
  | some (none, ds) => "e" ++ Digit.text ds
  | some (some .plus, ds) => "e+" ++ Digit.text ds
  | some (some .minus, ds) => "e-" ++ Digit.text ds

def text (n : Numeral) : String :=
  (if n.negative then "-" else "") ++ Digit.text n.whole ++
    (if n.fraction.isEmpty then "" else "." ++ Digit.text n.fraction) ++ exponentText n.exponent

/-- The written exponent as a number; zero where there is none. -/
def exponentValue (n : Numeral) : Int :=
  match n.exponent with
  | none => 0
  | some (some .minus, ds) => -(Digit.toNat ds : Int)
  | some (_, ds) => Digit.toNat ds

/-- The double nearest to the number written. -/
def nearest (n : Numeral) : Float :=
  Double.nearestDecimal n.negative (Digit.toNat (n.whole ++ n.fraction))
    (n.exponentValue - n.fraction.length)

end Numeral

/-- How a double is written with the fewest digits that read back. -/
structure Layout where
  /-- The decimal points, counted from the first digit, between which no exponent is written. -/
  positional : Option (Int × Int)
  /-- Whether a whole number keeps one zero after the point. -/
  keepsFraction : Bool
  tie : Tie

namespace Layout

/-- Numbers in documents: positional from 0.00001 to below 10^16, otherwise with an exponent
that always has a sign; whole numbers end in `.0`; a tie goes to the even digit. -/
def document : Layout := ⟨some (-4, 16), true, .toEven⟩

/-- Numbers in cells and messages: always positional, whole numbers without a point; a tie goes
up. -/
def plain : Layout := ⟨none, false, .up⟩

/-- Digits `0.ds · 10 ^ point` written without an exponent. -/
def spread (l : Layout) (ds : List Digit) (point : Int) : List Digit × List Digit :=
  let tail (fraction : List Digit) : List Digit :=
    if fraction.isEmpty && l.keepsFraction then [.zero] else fraction
  if point ≤ 0 then ([.zero], List.replicate point.natAbs .zero ++ ds)
  else
    let n := point.natAbs
    (ds.take n ++ List.replicate (n - ds.length) .zero, tail (ds.drop n))

/-- A finite double as a numeral. -/
def finite (l : Layout) (negative : Bool) (mantissa : Nat) (exponent : Int) : Numeral :=
  if mantissa = 0 then ⟨negative, [.zero], if l.keepsFraction then [.zero] else [], none⟩
  else
    let s := Double.shortest l.tie mantissa exponent
    let ds := Digit.ofNat s.digits
    let point : Int := s.exponent + ds.length
    let fits := match l.positional with
      | none => true
      | some (least, most) => least ≤ point && point ≤ most
    if fits then
      let (whole, fraction) := l.spread ds point
      ⟨negative, whole, fraction, none⟩
    else
      let e := point - 1
      ⟨negative, ds.take 1, ds.drop 1,
        some (some (if e < 0 then .minus else .plus), Digit.ofNat e.natAbs)⟩

/-- A double as a numeral, if it is finite. -/
def numeral? (l : Layout) (x : Float) : Option Numeral :=
  match Double.ofFloat x with
  | .finite negative mantissa exponent => some (l.finite negative mantissa exponent)
  | _ => none

end Layout

/-- A double as it stands in cells and messages. -/
def plainText (x : Float) : String :=
  match Double.ofFloat x with
  | .notANumber => "NaN"
  | .infinite negative => if negative then "-inf" else "inf"
  | .finite negative mantissa exponent => (Layout.plain.finite negative mantissa exponent).text

/-- The most places after the point that a double has, since it is a whole multiple of
`2 ^ -1074`. -/
def exactPlaces : Nat := 1074

/-- A double with a fixed number of places after the point, rounded from its exact value, an
exact half to the even digit. The sign stays on what rounds to zero. Beyond the places that a
double has there are only zeros. -/
def fixedText (places : Nat) (x : Float) : String :=
  match Double.ofFloat x with
  | .notANumber => "NaN"
  | .infinite negative => if negative then "-inf" else "inf"
  | .finite negative mantissa exponent =>
    let kept := min places exactPlaces
    let ds := Digit.ofNat (Double.roundToPlaces kept mantissa exponent)
    let padded := List.replicate (kept + 1 - ds.length) .zero ++ ds
    let split := padded.length - kept
    (Numeral.mk negative (padded.take split)
      (padded.drop split ++ List.replicate (places - kept) .zero) none).text

end CurvePnl
