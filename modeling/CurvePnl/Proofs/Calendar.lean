import CurvePnl.Date.Civil
import Mathlib.Logic.Function.Iterate
import Mathlib.Tactic.IntervalCases

/-! # The days of the calendar, one after the other

The day after a day is found on the calendar: in the same month, or at the start of the next one. A
day number counts these steps, so it stands for exactly one day, and earlier days have lower
numbers. Years are taken to begin in March here, so that the leap day is the last of its year.
-/

namespace CurvePnl.Civil

/-- The following day. -/
def next (c : Civil) : Civil :=
  if c.day < daysInMonth c.year c.month then ⟨c.year, c.month, c.day + 1⟩
  else if c.month < 12 then ⟨c.year, c.month + 1, 1⟩
  else ⟨c.year + 1, 1, 1⟩

/-- The day before. -/
def previous (c : Civil) : Civil :=
  if 1 < c.day then ⟨c.year, c.month, c.day - 1⟩
  else if 1 < c.month then ⟨c.year, c.month - 1, daysInMonth c.year (c.month - 1)⟩
  else ⟨c.year - 1, 12, 31⟩

/-- The day that is reached by going on `n` times, or back if `n` is negative. -/
def after (c : Civil) : Int → Civil
  | .ofNat n => next^[n] c
  | .negSucc n => previous^[n + 1] c

/-- Earlier by year, then by month, then by day. -/
def Before (c e : Civil) : Prop :=
  c.year < e.year ∨
    c.year = e.year ∧ (c.month < e.month ∨ c.month = e.month ∧ c.day < e.day)

theorem Valid.month {c : Civil} (valid : c.Valid) : 1 ≤ c.month ∧ c.month ≤ 12 := by
  obtain ⟨first, last⟩ := valid
  unfold daysInMonth at last
  split at last
  · omega
  · split at last
    · omega
    · split at last <;> omega

theorem daysInMonth_pos {year : Int} {month : Nat} (first : 1 ≤ month) (last : month ≤ 12) :
    1 ≤ daysInMonth year month := by
  unfold daysInMonth
  split
  · split <;> omega
  · split
    · omega
    · rw [if_pos ⟨first, last⟩]
      omega

theorem daysInMonth_le (year : Int) (month : Nat) : daysInMonth year month ≤ 31 := by
  unfold daysInMonth
  split
  · split <;> omega
  · split
    · omega
    · split <;> omega

/-- The number of the first of March of a year. -/
def yearStart (year : Int) : Int := 365 * year + year / 4 - year / 100 + year / 400

theorem yearStart_succ (year : Int) :
    yearStart (year + 1) = yearStart year + if isLeap (year + 1) then 366 else 365 := by
  simp only [yearStart, isLeap, Bool.and_eq_true, Bool.or_eq_true, beq_iff_eq, bne_iff_ne]
  split <;> omega

theorem yearStart_le {y z : Int} (before : y ≤ z) : yearStart y ≤ yearStart z := by
  simp only [yearStart]
  omega

theorem yearStart_unique {y z n : Int} (from_y : yearStart y ≤ n) (to_y : n < yearStart (y + 1))
    (from_z : yearStart z ≤ n) (to_z : n < yearStart (z + 1)) : y = z := by
  rcases Int.lt_trichotomy y z with before | same | after
  · have ends := yearStart_le (Int.add_one_le_of_lt before)
    omega
  · exact same
  · have ends := yearStart_le (Int.add_one_le_of_lt after)
    omega

theorem yearStart_add_cycles (q year : Int) :
    yearStart (q * 400 + year) = cycle * q + yearStart year := by
  simp only [yearStart, cycle]
  omega

/-- In a cycle, a century has 36524 days, four years have 1461 of them, and a year has 365. The
longer last ones are not counted here. -/
theorem yearStart_parts (year : Int) {c q t : Nat} (parts : year = 100 * c + 4 * q + t)
    (century : c ≤ 3) (four : q ≤ 24) (one : t ≤ 3) :
    yearStart year = 36524 * c + 1461 * q + 365 * t := by
  have fours : year / 4 = 25 * c + q := by omega
  have centuries : year / 100 = c := by omega
  rw [yearStart, fours, centuries]
  omega

/-- The year in its cycle to which a day of the cycle belongs. -/
def yearInCycle (k : Nat) : Nat := (k - k / 1460 + k / 36524 - k / 146096) / 365

theorem yearInCycle_parts {c q s : Nat} (century : c ≤ 3) (four : q ≤ 24) (days : s ≤ 1460)
    (inside : 1461 * q + s < 36524) :
    yearInCycle (36524 * c + 1461 * q + s) = 100 * c + 4 * q + min (s / 365) 3 := by
  have centuries : (36524 * c + 1461 * q + s) / 36524 = c := by omega
  have early : (36524 * c + 1461 * q + s) / 146096 = 0 := by omega
  have leaps : (36524 * c + 1461 * q + s) / 1460 = 25 * c + q + (24 * c + q + s) / 1460 := by
    omega
  rw [yearInCycle, centuries, early, leaps]
  -- The quotient is one too large for a leap year that has begun but has no leap day yet.
  by_cases fourth : 24 * c + q + s < 1460
  · have none : (24 * c + q + s) / 1460 = 0 := by omega
    omega
  · have one : (24 * c + q + s) / 1460 = 1 := by omega
    omega

theorem yearInCycle_spec {k : Nat} (inside : k < 146097) :
    yearInCycle k < 400 ∧ yearStart (yearInCycle k) ≤ k ∧ k < yearStart (yearInCycle k + 1) := by
  by_cases final : k = 146096
  · subst final
    decide
  · obtain ⟨c, q, s, rfl, century, four, days, inside⟩ : ∃ c q s,
        k = 36524 * c + 1461 * q + s ∧ c ≤ 3 ∧ q ≤ 24 ∧ s ≤ 1460 ∧ 1461 * q + s < 36524 :=
      ⟨k / 36524, k % 36524 / 1461, k % 36524 % 1461, by omega⟩
    rw [yearInCycle_parts century four days inside]
    have starts := yearStart_parts (100 * c + 4 * q + min (s / 365) 3 : Nat) (by simp) century
      four (Nat.min_le_right (s / 365) 3)
    refine ⟨by omega, by omega, ?_⟩
    by_cases more : s / 365 < 3
    · have ends := yearStart_parts ((100 * c + 4 * q + min (s / 365) 3 : Nat) + 1)
        (t := s / 365 + 1) (by omega) century four (by omega)
      omega
    · rw [Nat.min_eq_right (by omega)]
      simp only [yearStart]
      omega

theorem daysBefore_le_iff (month days : Nat) :
    daysBefore month ≤ days ↔ month ≤ (5 * days + 2) / 153 := by
  simp only [daysBefore]
  omega

/-- A day of a year that begins in March, with its month counted from 0. -/
def ofMarch (year : Int) (month day : Nat) : Civil where
  year := year + if month < 10 then 0 else 1
  month := if month < 10 then month + 3 else month - 9
  day := day

/-- The length of a month that is counted from 0 for March. -/
def monthLength (year : Int) (month : Nat) : Nat :=
  if month < 11 then daysBefore (month + 1) - daysBefore month
  else if isLeap (year + 1) then 29 else 28

section OfMarch

variable (year : Int) {month : Nat} (day : Nat)

theorem daysInMonth_ofMarch (inYear : month ≤ 11) :
    daysInMonth (ofMarch year month day).year (ofMarch year month day).month =
      monthLength year month := by
  interval_cases month <;> rfl

theorem number_ofMarch (inYear : month ≤ 11) :
    (ofMarch year month day).number = yearStart year + daysBefore month + day - 1 := by
  interval_cases month <;> simp [number, ofMarch, yearStart]

theorem valid_ofMarch_iff (inYear : month ≤ 11) :
    (ofMarch year month day).Valid ↔ 1 ≤ day ∧ day ≤ monthLength year month := by
  rw [Valid, daysInMonth_ofMarch year day inYear]
  rfl

theorem next_ofMarch (inYear : month ≤ 11) :
    (ofMarch year month day).next =
      if day < monthLength year month then ofMarch year month (day + 1)
      else if month < 11 then ofMarch year (month + 1) 1
      else ofMarch (year + 1) 0 1 := by
  rw [next, daysInMonth_ofMarch year day inYear]
  interval_cases month <;> simp [ofMarch]

theorem daysBefore_add_monthLength (inYear : month ≤ 11) :
    yearStart year + daysBefore month + monthLength year month =
      if month < 11 then yearStart year + daysBefore (month + 1) else yearStart (year + 1) := by
  unfold monthLength
  by_cases last : month < 11
  · simp only [if_pos last, daysBefore]
    omega
  · obtain rfl : month = 11 := by omega
    rw [if_neg last, if_neg last, yearStart_succ, daysBefore]
    split <;> omega

end OfMarch

theorem exists_ofMarch {c : Civil} (valid : c.Valid) :
    ∃ year month, month ≤ 11 ∧ c = ofMarch year month c.day := by
  obtain ⟨first, last⟩ := valid.month
  obtain ⟨year, month, day⟩ := c
  dsimp only at first last
  by_cases early : month ≤ 2
  · refine ⟨year - 1, month + 9, by omega, ?_⟩
    simp [ofMarch, show ¬ month + 9 < 10 by omega]
  · refine ⟨year, month - 3, by omega, ?_⟩
    simp [ofMarch, show month - 3 < 10 by omega, show month - 3 + 3 = month by omega]

/-- The day that stands a number of days after the first of March. -/
def ofDayOfYear (year : Int) (days : Nat) : Civil :=
  ofMarch year ((5 * days + 2) / 153) (days - daysBefore ((5 * days + 2) / 153) + 1)

theorem exists_year (n : Int) :
    ∃ year, yearStart year ≤ n ∧ n < yearStart (year + 1) ∧
      ofNumber n = ofDayOfYear year (n - yearStart year).toNat := by
  obtain ⟨k, inCycle⟩ : ∃ k, (n % cycle).toNat = k := ⟨_, rfl⟩
  have split : n = cycle * (n / cycle) + k ∧ k < 146097 := by
    simp only [cycle] at inCycle ⊢
    omega
  obtain ⟨few, starts, ends⟩ := yearInCycle_spec split.2
  have start := yearStart_add_cycles (n / cycle) (yearInCycle k)
  have next := yearStart_add_cycles (n / cycle) (yearInCycle k + 1)
  refine ⟨n / cycle * 400 + yearInCycle k, by omega, by rw [Int.add_assoc, next]; omega, ?_⟩
  -- The year is below 400 in its cycle, so no leap day of a 400th year is before it.
  have days : (n - yearStart (n / cycle * 400 + yearInCycle k)).toNat =
      k - (365 * yearInCycle k + yearInCycle k / 4 - yearInCycle k / 100) := by
    rw [start]
    simp only [yearStart] at starts ⊢
    omega
  rw [days, ← inCycle]
  rfl

theorem ofNumber_eq {year n : Int} (starts : yearStart year ≤ n) (ends : n < yearStart (year + 1)) :
    ofNumber n = ofDayOfYear year (n - yearStart year).toNat := by
  obtain ⟨z, from_z, to_z, here⟩ := exists_year n
  rw [here, yearStart_unique from_z to_z starts ends]

theorem ofDayOfYear_eq {year : Int} {month day : Nat} (inYear : month ≤ 11) (first : 1 ≤ day)
    (last : day ≤ monthLength year month) :
    ofDayOfYear year (daysBefore month + day - 1) = ofMarch year month day := by
  have reached : (5 * (daysBefore month + day - 1) + 2) / 153 = month := by
    have from_start := daysBefore_le_iff month (daysBefore month + day - 1)
    have to_end := daysBefore_le_iff (month + 1) (daysBefore month + day - 1)
    have short : daysBefore month + day ≤ daysBefore (month + 1) := by
      unfold monthLength at last
      split at last
      · omega
      · simp only [daysBefore]
        split at last <;> omega
    omega
  rw [ofDayOfYear, reached, show daysBefore month + day - 1 - daysBefore month + 1 = day by omega]

theorem valid_ofDayOfYear {year : Int} {days : Nat}
    (inside : yearStart year + days < yearStart (year + 1)) : (ofDayOfYear year days).Valid := by
  have started : daysBefore ((5 * days + 2) / 153) ≤ days :=
    (daysBefore_le_iff _ _).mpr (Nat.le_refl _)
  have short : days ≤ 365 := by
    rw [yearStart_succ] at inside
    split at inside <;> omega
  have inYear : (5 * days + 2) / 153 ≤ 11 := by omega
  rw [ofDayOfYear, valid_ofMarch_iff _ _ inYear]
  refine ⟨by omega, ?_⟩
  have ends := daysBefore_add_monthLength year inYear
  have not_next : ¬ daysBefore ((5 * days + 2) / 153 + 1) ≤ days := by
    rw [daysBefore_le_iff]
    omega
  split at ends <;> omega

/-- Every number is that of a day of the calendar. -/
theorem valid_ofNumber (n : Int) : (ofNumber n).Valid := by
  obtain ⟨year, starts, ends, here⟩ := exists_year n
  rw [here]
  exact valid_ofDayOfYear (by omega)

theorem number_ofNumber (n : Int) : (ofNumber n).number = n := by
  obtain ⟨year, starts, ends, here⟩ := exists_year n
  have started : daysBefore ((5 * (n - yearStart year).toNat + 2) / 153) ≤
      (n - yearStart year).toNat :=
    (daysBefore_le_iff _ _).mpr (Nat.le_refl _)
  rw [here, ofDayOfYear, number_ofMarch]
  · omega
  · rw [yearStart_succ] at ends
    split at ends <;> omega

theorem ofNumber_number {c : Civil} (valid : c.Valid) : ofNumber c.number = c := by
  obtain ⟨year, month, inYear, here⟩ := exists_ofMarch valid
  rw [here] at valid ⊢
  obtain ⟨first, last⟩ := (valid_ofMarch_iff _ _ inYear).mp valid
  have number := number_ofMarch year c.day inYear
  have monthEnd := daysBefore_add_monthLength year inYear
  have yearEnd : (ofMarch year month c.day).number < yearStart (year + 1) := by
    rw [yearStart_succ]
    split at monthEnd
    · have short : daysBefore (month + 1) ≤ 337 := by
        simp only [daysBefore]
        omega
      split <;> omega
    · rw [yearStart_succ] at monthEnd
      split at monthEnd <;> split <;> omega
  rw [ofNumber_eq (by omega) yearEnd,
    show ((ofMarch year month c.day).number - yearStart year).toNat = daysBefore month + c.day - 1
      by omega]
  exact ofDayOfYear_eq inYear first last

theorem valid_next {c : Civil} (valid : c.Valid) : c.next.Valid := by
  obtain ⟨first, last⟩ := valid.month
  unfold next
  split
  next more => exact ⟨by simp, more⟩
  · split
    next more => exact ⟨Nat.le_refl 1, daysInMonth_pos (by simp) more⟩
    · exact ⟨Nat.le_refl 1, daysInMonth_pos (Nat.le_refl 1) (by simp)⟩

theorem number_next {c : Civil} (valid : c.Valid) : c.next.number = c.number + 1 := by
  obtain ⟨year, month, inYear, here⟩ := exists_ofMarch valid
  rw [here] at valid ⊢
  obtain ⟨first, last⟩ := (valid_ofMarch_iff _ _ inYear).mp valid
  have monthEnd := daysBefore_add_monthLength year inYear
  rw [next_ofMarch _ _ inYear, number_ofMarch _ _ inYear]
  split
  · rw [number_ofMarch _ _ inYear]
    omega
  · split
    next more =>
      rw [number_ofMarch _ _ (by omega)]
      rw [if_pos more] at monthEnd
      omega
    next final =>
      rw [number_ofMarch _ _ (by omega)]
      rw [if_neg final] at monthEnd
      simp only [daysBefore] at monthEnd ⊢
      omega

theorem valid_previous {c : Civil} (valid : c.Valid) : c.previous.Valid := by
  obtain ⟨first, last⟩ := valid.month
  unfold previous
  split
  next more => exact ⟨by dsimp only; omega, Nat.le_trans (Nat.sub_le _ _) valid.2⟩
  · split
    next more => exact ⟨daysInMonth_pos (by omega) (by omega), Nat.le_refl _⟩
    · exact ⟨by simp, Nat.le_refl 31⟩

theorem next_previous {c : Civil} (valid : c.Valid) : c.previous.next = c := by
  obtain ⟨year, month, day⟩ := c
  obtain ⟨firstMonth, lastMonth⟩ := valid.month
  obtain ⟨firstDay, lastDay⟩ := valid
  dsimp only at firstMonth lastMonth firstDay lastDay
  unfold previous
  split
  next more =>
    dsimp only at more
    rw [next, if_pos (by dsimp only; omega)]
    simp only [Civil.mk.injEq, true_and]
    omega
  next firstOfMonth =>
    obtain rfl : day = 1 := by
      dsimp only at firstOfMonth
      omega
    split
    next more =>
      dsimp only at more
      rw [next, if_neg (by simp), if_pos (by dsimp only; omega)]
      simp only [Civil.mk.injEq, true_and, and_true]
      omega
    next firstOfYear =>
      obtain rfl : month = 1 := by
        dsimp only at firstOfYear
        omega
      rw [next, if_neg (by simp [daysInMonth]), if_neg (by simp)]
      simp

theorem number_previous {c : Civil} (valid : c.Valid) : c.previous.number = c.number - 1 := by
  have number := number_next (valid_previous valid)
  rw [next_previous valid] at number
  omega

/-- Going on changes the number by the number of steps. -/
theorem after_spec {c : Civil} (valid : c.Valid) (n : Int) :
    (c.after n).Valid ∧ (c.after n).number = c.number + n := by
  have forward (k : Nat) : (next^[k] c).Valid ∧ (next^[k] c).number = c.number + k := by
    induction k with
    | zero => exact ⟨valid, by simp⟩
    | succ k ih =>
        rw [Function.iterate_succ_apply']
        exact ⟨valid_next ih.1, by rw [number_next ih.1, ih.2]; omega⟩
  have back (k : Nat) : (previous^[k] c).Valid ∧ (previous^[k] c).number = c.number - k := by
    induction k with
    | zero => exact ⟨valid, by simp⟩
    | succ k ih =>
        rw [Function.iterate_succ_apply']
        exact ⟨valid_previous ih.1, by rw [number_previous ih.1, ih.2]; omega⟩
  cases n with
  | ofNat k => exact forward k
  | negSucc k =>
      refine ⟨(back (k + 1)).1, (back (k + 1)).2.trans ?_⟩
      omega

theorem after_eq {c : Civil} (valid : c.Valid) (n : Int) : c.after n = ofNumber (c.number + n) := by
  obtain ⟨reached, number⟩ := after_spec valid n
  rw [← number, ofNumber_number reached]

theorem Before.trans {c e f : Civil} (first : c.Before e) (second : e.Before f) : c.Before f := by
  unfold Before at *
  omega

theorem Before.asymm {c e : Civil} (before : c.Before e) : ¬ e.Before c := by
  unfold Before at *
  omega

theorem before_next (c : Civil) : c.Before c.next := by
  unfold Before next
  split
  · simp
  · split <;> simp

theorem ofNumber_succ (n : Int) : ofNumber (n + 1) = (ofNumber n).next := by
  have number := number_next (valid_ofNumber n)
  rw [number_ofNumber] at number
  rw [← number, ofNumber_number (valid_next (valid_ofNumber n))]

theorem ofNumber_before {n m : Int} (less : n < m) : (ofNumber n).Before (ofNumber m) := by
  obtain ⟨k, rfl⟩ : ∃ k : Nat, m = n + 1 + k := ⟨(m - n - 1).toNat, by omega⟩
  clear less
  induction k with
  | zero =>
      rw [Int.natCast_zero, Int.add_zero, ofNumber_succ]
      exact before_next _
  | succ k ih =>
      refine ih.trans ?_
      rw [Int.natCast_succ, ← Int.add_assoc, ofNumber_succ]
      exact before_next _

theorem before_iff {c e : Civil} (valid : c.Valid) (valid' : e.Valid) :
    c.Before e ↔ c.number < e.number := by
  constructor
  · intro before
    by_contra later
    rcases Int.lt_or_eq_of_le (Int.not_lt.mp later) with after | same
    · have reversed := ofNumber_before after
      rw [ofNumber_number valid, ofNumber_number valid'] at reversed
      exact before.asymm reversed
    · rw [← ofNumber_number valid, ← ofNumber_number valid', same] at before
      exact before.asymm before
  · intro less
    have before := ofNumber_before less
    rwa [ofNumber_number valid, ofNumber_number valid'] at before

end CurvePnl.Civil
