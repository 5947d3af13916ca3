import CurvePnl.Date.Civil

/-! # Dates

A date is a day number within the years -262143 to 262142. Date arithmetic is arithmetic on day
numbers; a step that leaves those years has no result.
-/

namespace CurvePnl

/-- A day of the week. -/
inductive Weekday where
  | monday | tuesday | wednesday | thursday | friday | saturday | sunday
  deriving Repr, DecidableEq

/-- A day of the civil calendar in the years -262143 to 262142, as its day number. -/
structure Date where
  number : Int
  first_le : -95745824 ≤ number
  le_last : number ≤ 95745704
  deriving DecidableEq

namespace Date

/-- The date with a day number, if it lies in the range. -/
def ofNumber? (n : Int) : Option Date :=
  if h : -95745824 ≤ n ∧ n ≤ 95745704 then some ⟨n, h.1, h.2⟩ else none

/-- The first date, 1 January -262143. -/
def first : Date := ⟨-95745824, by decide, by decide⟩

/-- The last date, 31 December 262142. -/
def last : Date := ⟨95745704, by decide, by decide⟩

instance : Inhabited Date := ⟨⟨0, by decide, by decide⟩⟩

instance : LT Date := ⟨fun d e => d.number < e.number⟩

instance : LE Date := ⟨fun d e => d.number ≤ e.number⟩

instance (d e : Date) : Decidable (d < e) := inferInstanceAs (Decidable (d.number < e.number))

instance (d e : Date) : Decidable (d ≤ e) := inferInstanceAs (Decidable (d.number ≤ e.number))

instance : Ord Date := ⟨fun d e => compare d.number e.number⟩

/-- The year, month and day of a date. -/
def civil (d : Date) : Civil := Civil.ofNumber d.number

/-- The date of a day of the calendar, if it exists and lies in the range. -/
def ofCivil? (c : Civil) : Option Date :=
  if c.Valid then ofNumber? c.number else none

/-- The date `n` days later, or earlier for a negative `n`. -/
def addDays? (d : Date) (n : Int) : Option Date := ofNumber? (d.number + n)

/-- The date `n` weeks later. -/
def addWeeks? (d : Date) (n : Int) : Option Date := d.addDays? (7 * n)

/-- The following day. -/
def succ? (d : Date) : Option Date := d.addDays? 1

/-- The number of days from `d` to `e`, negative if `e` is earlier. -/
def daysUntil (d e : Date) : Int := e.number - d.number

/-- Day number 0, the first of March of year 0, is a Wednesday. -/
def weekday (d : Date) : Weekday :=
  match (d.number % 7).toNat with
  | 0 => .wednesday
  | 1 => .thursday
  | 2 => .friday
  | 3 => .saturday
  | 4 => .sunday
  | 5 => .monday
  | _ => .tuesday

def isWeekend (d : Date) : Bool := d.weekday == .saturday || d.weekday == .sunday

/-- Monday to Friday. -/
def isWeekday (d : Date) : Bool := !d.isWeekend

def text (d : Date) : String := d.civil.text

theorem ext_number {d e : Date} (h : d.number = e.number) : d = e := by
  cases d; cases e; simp_all

theorem ofNumber?_eq_some_iff {n : Int} {d : Date} : ofNumber? n = some d ↔ d.number = n := by
  unfold ofNumber?
  constructor
  · intro h
    split at h
    · cases h; rfl
    · cases h
  · rintro rfl
    rw [dif_pos ⟨d.first_le, d.le_last⟩]

end Date

end CurvePnl
