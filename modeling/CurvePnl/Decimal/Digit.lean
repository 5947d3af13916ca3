/-! # Decimal digits

Digits as numbers below ten, most significant first, their characters, and the number that a
list of them writes.
-/

namespace CurvePnl

/-- A decimal digit. -/
abbrev Digit := Fin 10

namespace Digit

def zero : Digit := ⟨0, by decide⟩

def toChar (d : Digit) : Char := Char.ofNat (48 + d.val)

/-- The digit that an ASCII digit character stands for. -/
def ofChar? (c : Char) : Option Digit :=
  if h : 48 ≤ c.toNat ∧ c.toNat < 58 then some ⟨c.toNat - 48, by omega⟩ else none

/-- The digits at the front of a list of characters, and what follows them. -/
def readAll : List Char → List Digit × List Char
  | [] => ([], [])
  | c :: cs =>
    match ofChar? c with
    | none => ([], c :: cs)
    | some d => let (ds, rest) := readAll cs; (d :: ds, rest)

/-- The number written by these digits after `n`. -/
def appendTo (n : Nat) (ds : List Digit) : Nat := ds.foldl (fun n d => 10 * n + d.val) n

/-- The number that the digits write; zero for none. -/
def toNat (ds : List Digit) : Nat := appendTo 0 ds

/-- The digits of a number, without leading zeros; zero has the one digit 0. -/
def ofNat (n : Nat) : List Digit :=
  if h : n < 10 then [⟨n, h⟩] else ofNat (n / 10) ++ [⟨n % 10, Nat.mod_lt n (by omega)⟩]
termination_by n
decreasing_by omega

/-- The digits without the zeros at their end. -/
def dropTrailingZeros (ds : List Digit) : List Digit :=
  (ds.reverse.dropWhile (· == 0)).reverse

def text (ds : List Digit) : String := String.ofList (ds.map toChar)

/-- A number padded with zeros on the left to at least `width` digits. -/
def padded (width n : Nat) : String :=
  let ds := ofNat n
  text (List.replicate (width - ds.length) 0 ++ ds)

end Digit

end CurvePnl
