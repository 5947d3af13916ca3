import CurvePnl.Decimal.Numeral

/-! # Numbers in cells

A cell holds a decimal number with an optional sign, digits on at least one side of the point, and
an optional exponent; or infinity or not-a-number by name, in any case of letters. The number is
read as the double nearest to it.
-/

namespace CurvePnl.Cell

/-- Splits off a sign; true for minus. -/
def splitSign : List Char → Bool × List Char
  | '+' :: cs => (false, cs)
  | '-' :: cs => (true, cs)
  | cs => (false, cs)

/-- An exponent up to the end of the cell. -/
def exponent? : List Char → Option (Option (Option Sign × List Digit))
  | [] => some none
  | c :: cs =>
    if c = 'e' ∨ c = 'E' then
      let (sign, cs) := match cs with
        | '+' :: cs => (some Sign.plus, cs)
        | '-' :: cs => (some Sign.minus, cs)
        | cs => (none, cs)
      match Digit.readAll cs with
      | (d :: ds, []) => some (some (sign, d :: ds))
      | _ => none
    else none

/-- A decimal number without its sign. -/
def numeral? (negative : Bool) (cs : List Char) : Option Numeral := do
  let (whole, cs) := Digit.readAll cs
  let (fraction, cs) := match cs with
    | '.' :: cs => Digit.readAll cs
    | cs => ([], cs)
  let exponent ← exponent? cs
  if whole.isEmpty && fraction.isEmpty then none else return ⟨negative, whole, fraction, exponent⟩

/-- The double that a cell holds. -/
def number? (s : String) : Option Float :=
  let (negative, cs) := splitSign s.toList
  let name := String.ofList (cs.map Char.toLower)
  if name = "nan" then some (0.0 / 0.0)
  else if name = "inf" ∨ name = "infinity" then
    some (if negative then -1.0 / 0.0 else 1.0 / 0.0)
  else (numeral? negative cs).map Numeral.nearest

end CurvePnl.Cell
