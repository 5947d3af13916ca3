import CurvePnl.Proofs.Calendar
import CurvePnl.Proofs.Window

/-! # Dates as days of the calendar

A date stands for one day of the calendar, and every day within the range of years has a date. The
arithmetic of dates goes on or back from day to day, and comes to no date exactly if it leaves
those years. Days of the week follow each other in their round.
-/

namespace CurvePnl

/-- The day lies in the years of dates. -/
def Civil.InRange (c : Civil) : Prop := -262143 ≤ c.year ∧ c.year ≤ 262142

instance (c : Civil) : Decidable c.InRange := inferInstanceAs (Decidable (_ ∧ _))

theorem Civil.inRange_iff {c : Civil} (valid : c.Valid) :
    c.InRange ↔ -95745824 ≤ c.number ∧ c.number ≤ 95745704 := by
  have first := before_iff (e := ⟨-262143, 1, 1⟩) valid (by decide)
  have last := before_iff (c := ⟨262142, 12, 31⟩) (by decide) valid
  rw [show number ⟨-262143, 1, 1⟩ = -95745824 by decide] at first
  rw [show number ⟨262142, 12, 31⟩ = 95745704 by decide] at last
  have month := valid.month
  have day := valid.1
  have length : c.month = 12 → c.day ≤ 31 := by
    intro december
    have short := valid.2
    rwa [december] at short
  simp only [Before] at first last
  unfold InRange
  omega

namespace Date

variable {d e f : Date}

theorem valid_civil (d : Date) : d.civil.Valid := Civil.valid_ofNumber d.number

@[simp] theorem number_civil (d : Date) : d.civil.number = d.number :=
  Civil.number_ofNumber d.number

theorem inRange_civil (d : Date) : d.civil.InRange := by
  rw [Civil.inRange_iff d.valid_civil, number_civil]
  exact ⟨d.first_le, d.le_last⟩

theorem ofNumber?_eq_none_iff {n : Int} :
    ofNumber? n = none ↔ ¬ (-95745824 ≤ n ∧ n ≤ 95745704) := by
  simp [ofNumber?]

theorem ofCivil?_eq_some_iff {c : Civil} : ofCivil? c = some d ↔ d.civil = c := by
  unfold ofCivil?
  constructor
  · intro found
    split at found
    next valid =>
      rw [civil, ofNumber?_eq_some_iff.mp found, Civil.ofNumber_number valid]
    · cases found
  · rintro rfl
    rw [if_pos d.valid_civil, number_civil]
    exact ofNumber?_eq_some_iff.mpr rfl

theorem civil_inj : d.civil = e.civil ↔ d = e := by
  constructor
  · intro same
    have first : ofCivil? e.civil = some d := ofCivil?_eq_some_iff.mpr same
    have second : ofCivil? e.civil = some e := ofCivil?_eq_some_iff.mpr rfl
    exact Option.some.inj (first.symm.trans second)
  · exact congrArg civil

theorem exists_civil_eq {c : Civil} (valid : c.Valid) (inside : c.InRange) :
    ∃ d : Date, d.civil = c := by
  obtain ⟨first, last⟩ := (Civil.inRange_iff valid).mp inside
  exact ⟨⟨c.number, first, last⟩, Civil.ofNumber_number valid⟩

theorem lt_iff_before : d < e ↔ d.civil.Before e.civil := by
  rw [Civil.before_iff d.valid_civil e.valid_civil, number_civil, number_civil]
  rfl

theorem addDays?_eq_some_iff {n : Int} : d.addDays? n = some e ↔ d.daysUntil e = n := by
  rw [addDays?, ofNumber?_eq_some_iff, daysUntil]
  omega

theorem civil_of_addDays? {n : Int} (moved : d.addDays? n = some e) :
    e.civil = d.civil.after n := by
  rw [Civil.after_eq d.valid_civil, number_civil, civil, ofNumber?_eq_some_iff.mp moved]

theorem addDays?_eq_none_iff {n : Int} :
    d.addDays? n = none ↔ ¬ (d.civil.after n).InRange := by
  obtain ⟨valid, number⟩ := Civil.after_spec d.valid_civil n
  rw [addDays?, ofNumber?_eq_none_iff, Civil.inRange_iff valid, number, number_civil]

theorem addDays?_of_addDays? {n : Int} (moved : d.addDays? n = some e) (m : Int) :
    e.addDays? m = d.addDays? (n + m) := by
  rw [addDays?, addDays?, ofNumber?_eq_some_iff.mp moved, Int.add_assoc]

theorem civil_of_succ? (follows : d.succ? = some e) : e.civil = d.civil.next :=
  civil_of_addDays? follows

theorem succ?_eq_some_iff_next : d.succ? = some e ↔ e.civil = d.civil.next := by
  constructor
  · exact civil_of_succ?
  · intro next
    have number := Civil.number_next d.valid_civil
    rw [← next, number_civil, number_civil] at number
    exact succ?_eq_some.mpr number

end Date

/-- The following day of the week. -/
def Weekday.next : Weekday → Weekday
  | monday => tuesday
  | tuesday => wednesday
  | wednesday => thursday
  | thursday => friday
  | friday => saturday
  | saturday => sunday
  | sunday => monday

namespace Date

variable {d e : Date}

theorem weekday_of_succ? (follows : d.succ? = some e) : e.weekday = d.weekday.next := by
  have number := succ?_eq_some.mp follows
  have days : d.number % 7 = 0 ∨ d.number % 7 = 1 ∨ d.number % 7 = 2 ∨ d.number % 7 = 3 ∨
      d.number % 7 = 4 ∨ d.number % 7 = 5 ∨ d.number % 7 = 6 := by
    omega
  have next : e.number % 7 = (d.number % 7 + 1) % 7 := by omega
  unfold weekday
  rcases days with day | day | day | day | day | day | day <;> rw [next, day] <;> rfl

theorem weekday_of_addDays? {n : Int} (moved : d.addDays? (7 * n) = some e) :
    e.weekday = d.weekday := by
  have number := ofNumber?_eq_some_iff.mp moved
  have same : e.number % 7 = d.number % 7 := by omega
  rw [weekday, weekday, same]

/-- Days in a row have the days of the week in their round. -/
theorem map_weekday_of_row {l : List Date} (row : (d :: l).IsChain fun d e => d.succ? = some e) :
    (d :: l).map weekday = List.iterate Weekday.next d.weekday (l.length + 1) := by
  induction l generalizing d with
  | nil => rfl
  | cons e l ih =>
      obtain ⟨follows, row⟩ := List.isChain_cons_cons.mp row
      rw [List.map_cons, ih row, weekday_of_succ? follows]
      rfl

theorem countP_isWeekday {week : List Date} (seven : week.length = 7)
    (row : week.IsChain fun d e => d.succ? = some e) : week.countP isWeekday = 5 := by
  obtain ⟨d, l, rfl⟩ := List.exists_cons_of_length_eq_add_one seven
  have counted : (d :: l).countP isWeekday =
      ((d :: l).map weekday).countP fun w => ! (w == .saturday || w == .sunday) := by
    rw [List.countP_map]
    rfl
  rw [counted, map_weekday_of_row row, ← List.length_cons, seven]
  cases d.weekday <;> rfl

end Date

end CurvePnl
