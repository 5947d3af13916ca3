import CurvePnl.JsonForm
import CurvePnl.Proofs.CalendarDates

/-! # Windows and the days in them

A window is stored as two dates. They are in order, as they are compared when a window is built or
read, and a lead moves only the first of them, back. The walk from day to day finds the days of the
calendar between the two, each once, and then ends by itself; it asks for one day too many, and so
it has no result exactly if the window reaches to the last date of all.
-/

namespace CurvePnl

namespace Date

theorem isChain_through (d e : Date) : (d.through e).IsChain fun a b => a.succ? = some b := by
  obtain ⟨n, count⟩ : ∃ n, (e.number - d.number).toNat = n := ⟨_, rfl⟩
  induction n generalizing d with
  | zero =>
      have short : (d.through e).length ≤ 1 := by
        rw [length_through]
        omega
      generalize d.through e = l at short
      cases l with
      | nil => exact .nil
      | cons a l =>
          rw [List.eq_nil_of_length_eq_zero (Nat.le_zero.mp (Nat.le_of_succ_le_succ short))]
          exact .singleton a
  | succ n ih =>
      have early : d < Date.last := by
        have last := e.number_le_last
        rw [lt_def]
        omega
      obtain ⟨next, follows⟩ := exists_succ? early
      have number := succ?_eq_some.mp follows
      have inside : next ≤ e := by
        rw [le_def]
        omega
      have rest := ih next (by omega)
      rw [through_of_succ? follows inside]
      obtain ⟨others, split⟩ := exists_through_eq inside
      rw [split] at rest ⊢
      exact .cons_cons follows rest

end Date

namespace DateWindow

theorem exists_lead {w fetched : DateWindow} (lead : w.fetched? = some fetched) :
    ∃ earlier : List Date, fetched.days = earlier ++ w.days ∧
      earlier.map (·.daysUntil w.first) = [7, 6, 5, 4, 3, 2, 1] := by
  obtain ⟨first, last⟩ := fetched?_eq_some.mp lead
  have ordered := w.first_le_last
  rw [Date.le_def] at ordered
  have count : (fetched.last.number + 1 - fetched.first.number).toNat =
      7 + (w.last.number + 1 - w.first.number).toNat := by
    rw [last, first]
    omega
  have shift (i : Nat) : fetched.first.number + (7 + i : Nat) = w.first.number + i := by omega
  refine ⟨(List.range 7).filterMap fun (i : Nat) => Date.ofNumber? (fetched.first.number + i),
    ?_, ?_⟩
  · rw [days, days, Date.through, Date.through, count, List.range_add, List.filterMap_append,
      List.filterMap_map]
    simp only [Function.comp_def, shift]
  · have room := w.first.le_last
    have numbers := Date.map_number_range (n := 7) fetched.first.first_le (by omega)
    have distances := congrArg (List.map (w.first.number - ·)) numbers
    rw [List.map_map, List.map_map] at distances
    refine distances.trans ?_
    have distance (i : Nat) : w.first.number - (fetched.first.number + i) = 7 - i := by omega
    simp only [Function.comp_def, distance]
    rfl

end DateWindow

/-- Two dates, as a window is stored. -/
structure PlainWindow where
  first : Date
  last : Date

/-- The window as it is stored. -/
def DateWindow.plain (w : DateWindow) : PlainWindow := ⟨w.first, w.last⟩

namespace PlainWindow

/-- The two dates as they are, if the second is not earlier. -/
def new (first last : Date) : Except ValueError PlainWindow :=
  if last < first then .error (.reversedWindow first last) else .ok ⟨first, last⟩

def ofJson (v : Json) : Decoded PlainWindow := do
  let known ← Decode.record
    [Decode.field "start" Date.ofJson, Decode.field "end" Date.ofJson] v
  let first ← Decode.required known "start" Date.ofJson
  let last ← Decode.required known "end" Date.ofJson
  Decode.ofExcept (new first last)

/-- The window with its lead, whose dates are not compared. -/
def fetched? (p : PlainWindow) : Option PlainWindow := do
  return ⟨← p.first.addWeeks? (-DateWindow.leadWeeks), p.last⟩

/-- The window is built from dates, read from a JSON text, or comes about by a lead. -/
inductive Obtained : PlainWindow → Prop where
  | new {first last : Date} {p : PlainWindow} (built : new first last = .ok p) : Obtained p
  | decoded {text : String} {p : PlainWindow} (read : Decode.ofText ofJson text = .ok p) :
    Obtained p
  | fetched {p q : PlainWindow} (obtained : Obtained p) (lead : p.fetched? = some q) : Obtained q

theorem new_eq (first last : Date) :
    new first last = (DateWindow.new first last).map DateWindow.plain := by
  unfold new DateWindow.new
  by_cases ordered : first ≤ last
  · have forward : ¬ last < first := Int.not_lt.mpr ordered
    rw [if_neg forward, dif_pos ordered]
    rfl
  · have reversed : last < first := Int.not_le.mp ordered
    rw [if_pos reversed, dif_neg ordered]
    rfl

theorem ofJson_eq (v : Json) : ofJson v = DateWindow.plain <$> DateWindow.ofJson v := by
  have checked (x : Except ValueError DateWindow) :
      Decode.ofExcept (x.map DateWindow.plain) = DateWindow.plain <$> Decode.ofExcept x := by
    cases x <;> rfl
  simp only [ofJson, DateWindow.ofJson, new_eq, checked, map_bind]

theorem ofText_eq (text : String) :
    Decode.ofText ofJson text = DateWindow.plain <$> Decode.ofText DateWindow.ofJson text :=
  Decode.ofText_map ofJson_eq text

theorem fetched?_eq (w : DateWindow) : w.plain.fetched? = w.fetched?.map DateWindow.plain := by
  unfold fetched? DateWindow.fetched?
  split
  next left =>
    have left : w.plain.first.addWeeks? (-DateWindow.leadWeeks) = none := left
    rw [left]
    rfl
  next start moved =>
    have moved : w.plain.first.addWeeks? (-DateWindow.leadWeeks) = some start := moved
    rw [moved]
    rfl

theorem exists_window_of_map {ε : Type} {x : Except ε DateWindow} {p : PlainWindow}
    (ok : x.map DateWindow.plain = .ok p) : ∃ w : DateWindow, p = w.plain := by
  cases x with
  | error e => cases ok
  | ok w =>
      cases ok
      exact ⟨w, rfl⟩

theorem Obtained.exists_window {p : PlainWindow} (obtained : p.Obtained) :
    ∃ w : DateWindow, p = w.plain := by
  induction obtained with
  | new built =>
      rw [new_eq] at built
      exact exists_window_of_map built
  | decoded read =>
      rw [ofText_eq] at read
      exact exists_window_of_map read
  | fetched obtained lead ih =>
      obtain ⟨w, rfl⟩ := ih
      rw [fetched?_eq] at lead
      obtain ⟨fetched, -, rfl⟩ := Option.map_eq_some_iff.mp lead
      exact ⟨fetched, rfl⟩

end PlainWindow

namespace DateWindow

theorem head?_days (w : DateWindow) : w.days.head? = some w.first := by
  obtain ⟨rest, split⟩ := Date.exists_through_eq w.first_le_last
  rw [days, split]
  rfl

theorem getLast?_days (w : DateWindow) : w.days.getLast? = some w.last := by
  obtain ⟨before, split, -⟩ := w.exists_days_eq
  simp [split]

theorem contains_iff {w : DateWindow} {d : Date} : w.contains d = true ↔ d ∈ w.days := by
  rw [contains, decide_eq_true_eq, mem_days]

theorem fetched?_eq_none_iff {w : DateWindow} :
    w.fetched? = none ↔ ¬ (w.first.civil.after (-7)).InRange := by
  rw [← Date.addDays?_eq_none_iff]
  have lead : w.first.addWeeks? (-leadWeeks) = w.first.addDays? (-7) := rfl
  unfold fetched?
  split
  next left => simp [← lead, left]
  next start moved => simp [← lead, moved]

/-- However a window comes about, its dates are in order. The walk through a window finds the days
of the calendar from the first date to the last, each once and one after the other, as many as the
window has, and then ends; it has no result exactly if the last date is the last of all. A window
can have a lead exactly if the day seven days before it is in the years of dates, and then the lead
adds the seven days before. -/
theorem windows_enumerate_their_days :
    (∀ p : PlainWindow, p.Obtained → p.first ≤ p.last) ∧
    (∀ first last : Date, PlainWindow.new first last = (new first last).map plain) ∧
    (∀ text : String,
      Decode.ofText PlainWindow.ofJson text = (Decode.ofText ofJson text).map plain) ∧
    ∀ w : DateWindow,
      w.plain.fetched? = w.fetched?.map plain ∧
      (w.days? = none ↔ w.last = Date.last) ∧
      (∀ n, w.size ≤ n → w.firstDays? n = w.days?) ∧
      (w.last < Date.last → ∃ days, w.days? = some days ∧
        days.head? = some w.first ∧ days.getLast? = some w.last ∧
        (days.IsChain fun d e => e.civil = d.civil.next) ∧ days.Pairwise (· < ·) ∧
        (∀ d, d ∈ days ↔ w.contains d = true) ∧ days.length = w.size) ∧
      (w.fetched? = none ↔ ¬ (w.first.civil.after (-7)).InRange) ∧
      ∀ fetched, w.fetched? = some fetched →
        fetched.last = w.last ∧ (∀ d, w.contains d = true → fetched.contains d = true) ∧
        (w.last < Date.last → ∃ earlier days, w.days? = some days ∧
          fetched.days? = some (earlier ++ days) ∧
          earlier.map (·.daysUntil w.first) = [7, 6, 5, 4, 3, 2, 1]) := by
  refine ⟨?ordered, PlainWindow.new_eq, PlainWindow.ofText_eq, fun w =>
    ⟨PlainWindow.fetched?_eq w, w.days?_eq_none_iff, ?ends, ?days, fetched?_eq_none_iff, ?lead⟩⟩
  case ordered =>
    intro p obtained
    obtain ⟨w, rfl⟩ := obtained.exists_window
    exact w.first_le_last
  case ends =>
    intro n enough
    rw [days?, firstDays?_eq, firstDays?_eq, List.take_of_length_le (by rwa [length_days]),
      List.take_of_length_le (Nat.le_of_eq w.length_days)]
    simp [enough]
  case days =>
    intro bounded
    refine ⟨w.days, days?_eq_some bounded, w.head?_days, w.getLast?_days, ?_, w.pairwise_days,
      fun d => contains_iff.symm, w.length_days⟩
    exact (Date.isChain_through _ _).imp fun d e follows => Date.civil_of_succ? follows
  case lead =>
    intro fetched lead
    obtain ⟨earlier, split, distances⟩ := exists_lead lead
    have last := (fetched?_eq_some.mp lead).2
    refine ⟨last, ?_, fun bounded => ⟨earlier, w.days, days?_eq_some bounded, ?_, distances⟩⟩
    · intro d inside
      rw [contains_iff] at inside ⊢
      rw [split]
      exact List.mem_append_right earlier inside
    · rw [days?_eq_some (by rwa [last]), split]

/-- The last day of the year -1 and the first of the year 0. -/
def turnOfYear : DateWindow :=
  ⟨⟨-61, by decide, by decide⟩, ⟨-60, by decide, by decide⟩, by decide⟩

theorem turnOfYear_enumerates_its_days :
    turnOfYear.first.civil = ⟨-1, 12, 31⟩ ∧ turnOfYear.last.civil = ⟨0, 1, 1⟩ ∧
      (∃ q, turnOfYear.plain.fetched? = some q ∧ q.first ≤ q.last) ∧
      turnOfYear.firstDays? 5 = turnOfYear.days? ∧
      ∃ earlier days fetched, turnOfYear.fetched? = some fetched ∧ turnOfYear.days? = some days ∧
        fetched.days? = some (earlier ++ days) ∧ days.length = 2 ∧ earlier.length = 7 := by
  obtain ⟨ordered, -, -, windows⟩ := windows_enumerate_their_days
  obtain ⟨stored, -, ends, days, -, lead⟩ := windows turnOfYear
  have fetches : turnOfYear.fetched? =
      some ⟨⟨-68, by decide, by decide⟩, turnOfYear.last, by decide⟩ := by decide
  obtain ⟨-, -, led⟩ := lead _ fetches
  obtain ⟨found, walked, -, -, -, -, -, length⟩ := days (by decide)
  obtain ⟨earlier, found', walked', walked_lead, distances⟩ := led (by decide)
  rw [fetches] at stored
  have built : PlainWindow.new turnOfYear.first turnOfYear.last = .ok turnOfYear.plain := rfl
  refine ⟨by decide, by decide, ⟨_, stored, ordered _ (.fetched (.new built) stored)⟩,
    ends 5 (by decide), earlier, found', _, fetches, walked', walked_lead, ?_, ?_⟩
  · rw [walked] at walked'
    cases walked'
    exact length
  · simpa using congrArg List.length distances

end DateWindow

end CurvePnl
