import CurvePnl.Halt
import CurvePnl.Text.Blank
import CurvePnl.Text.Upper
import CurvePnl.ValueError

/-! # Tenors

A tenor is a time to maturity such as `3M` or `10Y`. Tenors are ordered by their approximate
length in days, and tenors of one length by their unit, days first; so two tenors compare equal
only if they are the same.
-/

namespace CurvePnl

/-- The unit of a tenor. -/
inductive TenorUnit where
  | days | weeks | months | years
  deriving Repr, DecidableEq, Hashable

namespace TenorUnit

/-- The approximate number of days in the unit. -/
def length : TenorUnit → Nat
  | days => 1
  | weeks => 7
  | months => 30
  | years => 365

/-- The place of the unit among tenors of one length. -/
def rank : TenorUnit → Nat
  | days => 0
  | weeks => 1
  | months => 2
  | years => 3

def letter : TenorUnit → Char
  | days => 'D'
  | weeks => 'W'
  | months => 'M'
  | years => 'Y'

def ofLetter? : Char → Option TenorUnit
  | 'D' => some days
  | 'W' => some weeks
  | 'M' => some months
  | 'Y' => some years
  | _ => none

end TenorUnit

/-- A count of 32 bits of a unit. -/
structure Tenor where
  unit : TenorUnit
  count : UInt32
  deriving Repr, DecidableEq, Hashable

namespace Tenor

/-- The approximate length in days. -/
def days (t : Tenor) : Nat := t.count.toNat * t.unit.length

instance : Ord Tenor :=
  ⟨fun t u => (compare t.days u.days).then (compare t.unit.rank u.unit.rank)⟩

def text (t : Tenor) : String :=
  Digit.text (Digit.ofNat t.count.toNat) ++ String.ofList [t.unit.letter]

/-- A number of 32 bits, written in digits after an optional plus sign. -/
def countOfChars? (cs : List Char) : Option UInt32 :=
  let (ds, rest) := Digit.readAll (match cs with | '+' :: cs => cs | cs => cs)
  let n := Digit.toNat ds
  if ds.isEmpty || !rest.isEmpty || UInt32.size ≤ n then none else some (UInt32.ofNat n)

/-- Reads a tenor, blanks and letter case apart. The last character is the unit; a last character
of more than one byte cannot be cut off, and the reading aborts. -/
def parse (s : String) : Except (Halt ValueError) Tenor :=
  let fail (fault : TenorFault) : Except (Halt ValueError) Tenor :=
    .error (.failed (.unreadableTenor s fault))
  match (Text.upper (Text.trimmed s.toList)).reverse with
  | [] => fail .tooShort
  | last :: front =>
    if 1 < last.utf8Size then .error .aborted
    else if front.isEmpty then fail .tooShort
    else
      match countOfChars? front.reverse, TenorUnit.ofLetter? last with
      | none, _ => fail (.badNumber front.reverse)
      | _, none => fail (.badUnit last)
      | some count, some unit => .ok ⟨unit, count⟩

end Tenor

end CurvePnl
