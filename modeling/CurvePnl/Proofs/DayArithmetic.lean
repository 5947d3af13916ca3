import CurvePnl.Proofs.CalendarDates

/-! # Days added in 64 bits

A number of days of 64 bits is turned into a span of time first, which holds fewer of them, and only
then added to a date. No sum is lost by that, as what does not fit leaves the years of dates anyway.
So numbers of days act on dates as the integers do.
-/

namespace CurvePnl

/-- A span of time of whole seconds, whose milliseconds are counted in 64 bits. -/
structure Span where
  seconds : Int
  fits : 1000 * seconds.natAbs < 2 ^ 63

namespace Span

def ofSeconds? (n : Int) : Option Span :=
  if h : 1000 * n.natAbs < 2 ^ 63 then some ⟨n, h⟩ else none

def ofDays? (n : Int64) : Option Span := ofSeconds? (86400 * n.toInt)

def ofWeeks? (n : Int64) : Option Span := ofSeconds? (7 * 86400 * n.toInt)

/-- The number of whole days. -/
def days (s : Span) : Int := s.seconds.tdiv 86400

theorem ofSeconds?_eq_none_iff {n : Int} : ofSeconds? n = none ↔ 2 ^ 63 ≤ 1000 * n.natAbs := by
  simp [ofSeconds?]

theorem ofSeconds?_eq_some_iff {n : Int} {s : Span} : ofSeconds? n = some s ↔ s.seconds = n := by
  unfold ofSeconds?
  constructor
  · intro found
    split at found
    · cases found
      rfl
    · cases found
  · rintro rfl
    rw [dif_pos s.fits]

end Span

namespace Date

/-- The date a span later. -/
def later? (d : Date) (s : Span) : Option Date := d.addDays? s.days

/-- The date `n` days later, if the days make a span and do not leave the years of dates. -/
instance : HAdd Date Int64 (Option Date) := ⟨fun d n => do d.later? (← Span.ofDays? n)⟩

/-- The date `n` days earlier. The least number of 64 bits has no negative. -/
instance : HSub Date Int64 (Option Date) :=
  ⟨fun d n => if n = Int64.minValue then none else d + (-n)⟩

/-- The number of days from the second date to the first. -/
instance : HSub Date Date Int64 := ⟨fun e d => Int64.ofInt (d.daysUntil e)⟩

/-- The date `n` weeks later, if the weeks make a span. -/
def plusWeeks? (d : Date) (n : Int64) : Option Date := do d.later? (← Span.ofWeeks? n)

variable {d e f : Date} {n m : Int64}

theorem addDays?_eq_none_of_far {k : Int} (far : 191491528 < k.natAbs) : d.addDays? k = none := by
  have first := d.first_le
  have last := d.le_last
  rw [addDays?, ofNumber?_eq_none_iff]
  omega

theorem later?_ofSeconds? (d : Date) (k : Int) :
    (do d.later? (← Span.ofSeconds? (86400 * k))) = d.addDays? k := by
  cases span : Span.ofSeconds? (86400 * k) with
  | none =>
      rw [Span.ofSeconds?_eq_none_iff] at span
      exact (addDays?_eq_none_of_far (by omega)).symm
  | some s =>
      have days : s.days = k := by
        rw [Span.days, Span.ofSeconds?_eq_some_iff.mp span]
        exact Int.mul_tdiv_cancel_left k (by decide)
      rw [Option.bind_eq_bind, Option.bind_some, later?, days]

theorem add_eq (d : Date) (n : Int64) : d + n = d.addDays? n.toInt :=
  d.later?_ofSeconds? n.toInt

theorem plusWeeks?_eq (d : Date) (n : Int64) : d.plusWeeks? n = d.addWeeks? n.toInt := by
  rw [plusWeeks?, Span.ofWeeks?, Int.mul_comm 7, Int.mul_assoc]
  exact d.later?_ofSeconds? (7 * n.toInt)

theorem sub_eq (d : Date) (n : Int64) : d - n = d.addDays? (-n.toInt) := by
  change (if n = Int64.minValue then none else d + (-n)) = _
  have low := n.le_toInt
  have high := n.toInt_lt
  split
  next least =>
    subst least
    refine (addDays?_eq_none_of_far ?_).symm
    rw [Int64.toInt_minValue]
    omega
  next more =>
    rw [← Int64.toInt_inj, Int64.toInt_minValue] at more
    rw [add_eq, Int64.toInt_neg, Int.bmod_eq_of_le (by omega) (by omega)]

theorem toInt_sub (d e : Date) : (e - d).toInt = d.daysUntil e := by
  have first := d.first_le
  have last := d.le_last
  have first' := e.first_le
  have last' := e.le_last
  change (Int64.ofInt (d.daysUntil e)).toInt = _
  rw [daysUntil]
  exact Int64.toInt_ofInt_of_le (by omega) (by omega)

/-- The number of days between dates that are reached is not so large that it could wrap. -/
theorem natAbs_le_of_add (moved : d + n = some e) : n.toInt.natAbs ≤ 191491528 := by
  rw [add_eq] at moved
  by_contra far
  rw [addDays?_eq_none_of_far (by omega)] at moved
  cases moved

theorem add_eq_some_iff : d + n = some e ↔ d.daysUntil e = n.toInt := by
  rw [add_eq, addDays?_eq_some_iff]

theorem add_of_add (moved : d + n = some e) (moved' : e + m = some f) : d + (n + m) = some f := by
  have near := natAbs_le_of_add moved
  have near' := natAbs_le_of_add moved'
  rw [add_eq] at moved moved' ⊢
  rw [Int64.toInt_add, Int.bmod_eq_of_le (by omega) (by omega), ← moved']
  exact (addDays?_of_addDays? moved m.toInt).symm

theorem sub_of_add (moved : d + n = some e) : e - n = some d := by
  rw [add_eq_some_iff] at moved
  rw [sub_eq, addDays?_eq_some_iff, ← moved, daysUntil, daysUntil, Int.neg_sub]

theorem add_sub (d e : Date) : d + (e - d) = some e := by
  rw [add_eq_some_iff, toInt_sub]

theorem add_eq_none_iff :
    d + n = none ↔ Span.ofDays? n = none ∨ ¬ (d.civil.after n.toInt).InRange := by
  rw [add_eq, ← addDays?_eq_none_iff]
  constructor
  · exact .inr
  · rintro (large | left)
    · rw [← add_eq]
      change (do d.later? (← Span.ofDays? n)) = none
      rw [large]
      rfl
    · exact left

theorem add_of_plusWeeks? (moved : d.plusWeeks? n = some e) : d + 7 * n = some e := by
  rw [plusWeeks?_eq, addWeeks?] at moved
  have near : (7 * n.toInt).natAbs ≤ 191491528 := by
    by_contra far
    rw [addDays?_eq_none_of_far (by omega)] at moved
    cases moved
  have seven : (7 : Int64).toInt = 7 := rfl
  rw [add_eq, Int64.toInt_mul, seven, Int.bmod_eq_of_le (by omega) (by omega)]
  exact moved

/-- Dates are the days of the calendar in their years, each by one date. A sum with a number of days
of 64 bits is the date that many days on, or back, on the calendar; there is none exactly if the
number is too large for a span or the day lies outside of those years. Differences of dates undo
sums, are positive exactly from an earlier date to a later one, and add up. Weeks keep the day of
the week, and five of seven days in a row are weekdays. -/
theorem integers_act_on_dates :
    (∀ d : Date, d.civil.Valid ∧ d.civil.InRange) ∧
    (∀ c : Civil, c.Valid → c.InRange → ∃! d : Date, d.civil = c) ∧
    (∀ (d : Date) (n : Int64),
      d + n = d.addDays? n.toInt ∧ d - n = d.addDays? (-n.toInt) ∧
      d.plusWeeks? n = d.addWeeks? n.toInt ∧
      (d + n = none ↔ Span.ofDays? n = none ∨ ¬ (d.civil.after n.toInt).InRange)) ∧
    (∀ (d e : Date) (n : Int64),
      (d + n = some e ↔ d.daysUntil e = n.toInt) ∧
      (d + n = some e → e.civil = d.civil.after n.toInt ∧ e - n = some d ∧
        ∀ (m : Int64) (f : Date), e + m = some f → d + (n + m) = some f) ∧
      (d.plusWeeks? n = some e → d + 7 * n = some e)) ∧
    (∀ d e : Date,
      (e - d).toInt = d.daysUntil e ∧ d + (e - d) = some e ∧
      (d < e ↔ 0 < d.daysUntil e) ∧ (d < e ↔ d.civil.Before e.civil) ∧
      d.daysUntil e = -e.daysUntil d ∧
      ∀ f : Date, d.daysUntil f = d.daysUntil e + e.daysUntil f) ∧
    (∀ (d e : Date) (k : Int), d.addDays? (7 * k) = some e → e.weekday = d.weekday) ∧
    ∀ week : List Date, week.length = 7 → (week.IsChain fun d e => e.civil = d.civil.next) →
      week.countP isWeekday = 5 := by
  refine ⟨fun d => ⟨d.valid_civil, d.inRange_civil⟩, ?found, ?sums, ?moves, ?distances,
    fun d e k => weekday_of_addDays?, ?weeks⟩
  case found =>
    intro c valid inside
    obtain ⟨d, here⟩ := exists_civil_eq valid inside
    exact ⟨d, here, fun e same => civil_inj.mp (same.trans here.symm)⟩
  case sums =>
    intro d n
    exact ⟨d.add_eq n, d.sub_eq n, d.plusWeeks?_eq n, add_eq_none_iff⟩
  case moves =>
    intro d e n
    refine ⟨add_eq_some_iff, fun moved => ?_, add_of_plusWeeks?⟩
    refine ⟨?_, sub_of_add moved, fun m f moved' => add_of_add moved moved'⟩
    rw [add_eq] at moved
    exact civil_of_addDays? moved
  case distances =>
    intro d e
    refine ⟨toInt_sub d e, add_sub d e, ?_, lt_iff_before, ?_, fun f => ?_⟩
    · rw [lt_def, daysUntil]
      omega
    · rw [daysUntil, daysUntil]
      omega
    · simp only [daysUntil]
      omega
  case weeks =>
    intro week seven row
    refine countP_isWeekday seven (row.imp ?_)
    intro d e next
    exact succ?_eq_some_iff_next.mpr next

/-- The last day but one of a February, whose leap day is that of a 400th year. -/
def leapEve : Date := ⟨730483, by decide, by decide⟩

/-- The first of the March after it. -/
def leapMarch : Date := ⟨730485, by decide, by decide⟩

/-- The last day of the year before. -/
def leapYearsEve : Date := ⟨730424, by decide, by decide⟩

theorem integers_act_on_leapEve :
    leapEve + (2 : Int64) = some leapMarch ∧ leapMarch.civil = leapEve.civil.next.next ∧
      leapMarch - (2 : Int64) = some leapEve ∧
      leapEve + (2 + -61 : Int64) = some leapYearsEve ∧
      leapEve + (7 * -9 : Int64) = some ⟨730420, by decide, by decide⟩ ∧
      leapEve.weekday = Weekday.monday ∧
      (⟨730420, by decide, by decide⟩ : Date).weekday = Weekday.monday ∧
      leapEve + (1000000000000 : Int64) = none ∧ Date.last + (1 : Int64) = none ∧
      (∃! d : Date, d.civil = ⟨2000, 2, 29⟩) ∧
      [leapEve, ⟨730484, by decide, by decide⟩, leapMarch, ⟨730486, by decide, by decide⟩,
        ⟨730487, by decide, by decide⟩, ⟨730488, by decide, by decide⟩,
        ⟨730489, by decide, by decide⟩].countP isWeekday = 5 := by
  obtain ⟨-, found, sums, moves, -, weekdays, weeks⟩ := integers_act_on_dates
  have moved : leapEve + (2 : Int64) = some leapMarch :=
    (moves leapEve leapMarch 2).1.mpr (by decide)
  obtain ⟨reached, back, onward⟩ := (moves leapEve leapMarch 2).2.1 moved
  have further : leapMarch + (-61 : Int64) = some leapYearsEve :=
    (moves leapMarch leapYearsEve (-61)).1.mpr (by decide)
  have monday : leapEve.weekday = Weekday.monday := by decide
  have large : Span.ofDays? 1000000000000 = none := Span.ofSeconds?_eq_none_iff.mpr (by decide)
  refine ⟨moved, reached, back, onward _ _ further, (moves _ _ (-9)).2.2 (by decide), monday,
    (weekdays leapEve _ (-9) (by decide)).trans monday, (sums leapEve _).2.2.2.mpr (.inl large),
    (sums Date.last 1).2.2.2.mpr (.inr (by decide)),
    found ⟨2000, 2, 29⟩ (by decide) (by decide), weeks _ rfl (by decide)⟩

end Date

end CurvePnl
