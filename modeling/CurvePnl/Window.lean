import CurvePnl.ValueError

/-! # Date windows

A window is a range of days with both ends included.
-/

namespace CurvePnl

/-- The days from `first` to `last`. -/
structure DateWindow where
  first : Date
  last : Date
  first_le_last : first ≤ last
  deriving DecidableEq

namespace DateWindow

/-- The window between two dates, which must not be reversed. -/
def new (first last : Date) : Except ValueError DateWindow :=
  if h : first ≤ last then .ok ⟨first, last, h⟩ else .error (.reversedWindow first last)

def contains (w : DateWindow) (d : Date) : Bool := decide (w.first ≤ d ∧ d ≤ w.last)

/-- The number of days. -/
def size (w : DateWindow) : Nat := (w.first.daysUntil w.last + 1).toNat

/-- The weeks of history that are needed before the window, so that its first day can have a
return. -/
def leadWeeks : Nat := 1

/-- The window with its lead; none if that leaves the range of dates. -/
def fetched? (w : DateWindow) (weeks : Nat := leadWeeks) : Option DateWindow :=
  match h : w.first.addWeeks? (-weeks) with
  | none => none
  | some start => some ⟨start, w.last, by
      have moved : start.number = w.first.number + 7 * (-(weeks : Int)) :=
        Date.ofNumber?_eq_some_iff.1 h
      have ordered : w.first.number ≤ w.last.number := w.first_le_last
      show start.number ≤ w.last.number
      omega⟩

/-- At most `n` days from `d` on, no later than `last`. Going on asks for the day after the one
just given, so a walk that reaches the last date of all has no result. -/
def daysFrom? (last : Date) : Nat → Date → Option (List Date)
  | 0, _ => some []
  | n + 1, d => do
    let next ← d.succ?
    if next ≤ last then return d :: (← daysFrom? last n next) else return [d]

/-- The first `n` days of the window. -/
def firstDays? (w : DateWindow) (n : Nat) : Option (List Date) := daysFrom? w.last n w.first

/-- All days of the window in increasing order. -/
def days? (w : DateWindow) : Option (List Date) := w.firstDays? w.size

def text (w : DateWindow) : String := "[" ++ w.first.text ++ ", " ++ w.last.text ++ "]"

end DateWindow

end CurvePnl
