import CurvePnl.Window
import Mathlib.Data.List.Basic

/-! # The days of a window

The days between two dates are listed without a walk from day to day, so that membership and order
are plain arithmetic. A walk that asks for the following day finds the same days, as long as it
does not reach the last date of all.
-/

namespace CurvePnl

namespace Date

theorem le_def {d e : Date} : d ≤ e ↔ d.number ≤ e.number := Iff.rfl

theorem lt_def {d e : Date} : d < e ↔ d.number < e.number := Iff.rfl

theorem number_le_last (d : Date) : d.number ≤ Date.last.number := d.le_last

theorem succ?_eq_some {d e : Date} : d.succ? = some e ↔ e.number = d.number + 1 :=
  ofNumber?_eq_some_iff

theorem exists_succ? {d : Date} (early : d < Date.last) : ∃ e, d.succ? = some e := by
  refine ⟨⟨d.number + 1, ?_, ?_⟩, succ?_eq_some.mpr rfl⟩
  · have := d.first_le
    omega
  · have : d.number < 95745704 := early
    omega

theorem eq_last_of_succ? {d : Date} (ends : d.succ? = none) : d = Date.last := by
  by_contra early
  have other := mt ext_number early
  have bound := d.number_le_last
  obtain ⟨next, follows⟩ := exists_succ? (lt_def.mpr (show d.number < Date.last.number by omega))
  rw [ends] at follows
  cases follows

/-- The dates from `d` to `e`. -/
def through (d e : Date) : List Date :=
  (List.range (e.number + 1 - d.number).toNat).filterMap fun (i : Nat) => ofNumber? (d.number + i)

theorem mem_through {d e x : Date} : x ∈ d.through e ↔ d ≤ x ∧ x ≤ e := by
  simp only [through, List.mem_filterMap, List.mem_range, ofNumber?_eq_some_iff, le_def]
  constructor
  · rintro ⟨i, inside, here⟩
    omega
  · rintro ⟨after, before⟩
    exact ⟨(x.number - d.number).toNat, by omega, by omega⟩

theorem pairwise_through (d e : Date) : (d.through e).Pairwise (· < ·) := by
  refine List.Pairwise.filterMap _ ?_ List.pairwise_lt_range
  intro i k before x hx y hy
  have first := ofNumber?_eq_some_iff.mp hx
  have second := ofNumber?_eq_some_iff.mp hy
  rw [lt_def]
  omega

theorem through_self (d : Date) : d.through d = [d] := by
  have one : (d.number + 1 - d.number).toNat = 1 := by omega
  have here : ofNumber? d.number = some d := ofNumber?_eq_some_iff.mpr rfl
  rw [through, one]
  simp [here]

theorem through_of_succ? {d e next : Date} (follows : d.succ? = some next) (inside : next ≤ e) :
    d.through e = d :: next.through e := by
  have number := succ?_eq_some.mp follows
  rw [le_def] at inside
  have count : (e.number + 1 - d.number).toNat = (e.number + 1 - next.number).toNat + 1 := by
    omega
  have here : ofNumber? d.number = some d := ofNumber?_eq_some_iff.mpr rfl
  have shift (i : Nat) : d.number + (i + 1 : Nat) = next.number + i := by omega
  simp only [through, count, List.range_succ_eq_map, List.filterMap_cons, Int.natCast_zero,
    Int.add_zero, here, List.filterMap_map, Function.comp_def, Nat.succ_eq_add_one, shift]

theorem singleton_prefix_through {d e : Date} (inside : d ≤ e) : [d] <+: d.through e := by
  rw [le_def] at inside
  obtain ⟨n, count⟩ : ∃ n, (e.number + 1 - d.number).toNat = n + 1 :=
    Nat.exists_eq_add_one_of_ne_zero (by omega)
  have here : ofNumber? d.number = some d := ofNumber?_eq_some_iff.mpr rfl
  simp only [through, count, List.range_succ_eq_map, List.filterMap_cons, Int.natCast_zero,
    Int.add_zero, here]
  exact List.prefix_append [d] _

theorem exists_through_eq {d e : Date} (inside : d ≤ e) : ∃ rest, d.through e = d :: rest := by
  obtain ⟨rest, split⟩ := singleton_prefix_through inside
  exact ⟨rest, split.symm⟩

theorem map_number_range {k : Int} {n : Nat} (first : -95745824 ≤ k) (last : k + n ≤ 95745705) :
    ((List.range n).filterMap fun (i : Nat) => ofNumber? (k + i)).map number =
      (List.range n).map fun (i : Nat) => k + i := by
  rw [List.map_filterMap, ← List.filterMap_eq_map]
  refine List.filterMap_congr fun i member => ?_
  rw [List.mem_range] at member
  have inside : ofNumber? (k + i) = some ⟨k + i, by omega, by omega⟩ :=
    ofNumber?_eq_some_iff.mpr rfl
  rw [inside]
  rfl

theorem length_through (d e : Date) :
    (d.through e).length = (e.number + 1 - d.number).toNat := by
  by_cases inside : d ≤ e
  · have first := d.first_le
    have last := e.le_last
    rw [le_def] at inside
    have numbers := map_number_range (n := (e.number + 1 - d.number).toNat) first (by omega)
    simpa [through] using congrArg List.length numbers
  · rw [le_def] at inside
    rw [through, show (e.number + 1 - d.number).toNat = 0 by omega]
    rfl

end Date

namespace DateWindow

/-- The days of the window in increasing order. -/
def days (w : DateWindow) : List Date := w.first.through w.last

theorem mem_days {w : DateWindow} {d : Date} : d ∈ w.days ↔ w.first ≤ d ∧ d ≤ w.last :=
  Date.mem_through

theorem pairwise_days (w : DateWindow) : w.days.Pairwise (· < ·) := Date.pairwise_through _ _

theorem exists_days_eq (w : DateWindow) :
    ∃ before, w.days = before ++ [w.last] ∧ ∀ d ∈ before, d < w.last := by
  obtain ⟨before, after, split⟩ :=
    List.append_of_mem (mem_days.mpr ⟨w.first_le_last, Int.le_refl _⟩)
  have increasing := w.pairwise_days
  rw [split] at increasing
  obtain ⟨-, ends, earlier⟩ := List.pairwise_append.mp increasing
  have done : after = [] := by
    rw [List.eq_nil_iff_forall_not_mem]
    intro d member
    have inside : d ≤ w.last := (mem_days.mp (split ▸ by simp [member])).2
    have outside : w.last < d := (List.pairwise_cons.mp ends).1 d member
    rw [Date.le_def] at inside
    rw [Date.lt_def] at outside
    omega
  subst done
  exact ⟨before, split, fun d member => earlier d member w.last List.mem_cons_self⟩

theorem fetchedBy_eq_some {w fetched : DateWindow} {weeks : Nat} :
    w.fetched? weeks = some fetched ↔
      fetched.first.number = w.first.number - 7 * weeks ∧ fetched.last = w.last := by
  unfold fetched?
  split
  next none =>
    simp only [reduceCtorEq, false_iff]
    rintro ⟨first, -⟩
    have moved : w.first.addWeeks? (-weeks) = some fetched.first :=
      Date.ofNumber?_eq_some_iff.mpr (by omega)
    rw [none] at moved
    cases moved
  next start moved =>
    have number := Date.ofNumber?_eq_some_iff.mp moved
    have early : start.number = w.first.number - 7 * weeks := by omega
    constructor
    · intro h
      cases h
      exact ⟨early, rfl⟩
    · rintro ⟨first, last⟩
      cases fetched
      have same : start = _ := Date.ext_number (early.trans first.symm)
      simp only at last
      simp only [same, last]

theorem fetched?_eq_some {w fetched : DateWindow} :
    w.fetched? = some fetched ↔
      fetched.first.number = w.first.number - 7 ∧ fetched.last = w.last := by
  rw [fetchedBy_eq_some]
  simp [leadWeeks]

/-- One window begins no later than another, and both end on the same day. -/
structure Lengthens (longer w : DateWindow) : Prop where
  begins : longer.first ≤ w.first
  ends : longer.last = w.last

theorem lengthens_of_fetched? {w longer fetched : DateWindow} {weeks more : Nat}
    (atLeast : weeks ≤ more) (leads : w.fetched? more = some longer)
    (lead : w.fetched? weeks = some fetched) : longer.Lengthens fetched := by
  obtain ⟨first, last⟩ := fetchedBy_eq_some.mp leads
  obtain ⟨first', last'⟩ := fetchedBy_eq_some.mp lead
  refine ⟨?_, last.trans last'.symm⟩
  rw [Date.le_def, first, first']
  omega

theorem size_eq (w : DateWindow) : w.size = (w.last.number + 1 - w.first.number).toNat := by
  simp only [size, Date.daysUntil]
  omega

theorem length_days (w : DateWindow) : w.days.length = w.size := by
  rw [days, Date.length_through, size_eq]

/-- A walk of any length finds the first days, and no more than there are. It has no result if it
comes to the last date of all. -/
theorem daysFrom?_eq {last d : Date} (inside : d ≤ last) (n : Nat) :
    daysFrom? last n d =
      if last = Date.last ∧ (d.through last).length ≤ n then none
      else some ((d.through last).take n) := by
  induction n generalizing d with
  | zero =>
      obtain ⟨rest, split⟩ := Date.exists_through_eq inside
      simp [daysFrom?, split]
  | succ n ih =>
      cases follows : d.succ? with
      | none =>
          have final := Date.eq_last_of_succ? follows
          have same : last = d := by
            have bound := last.number_le_last
            rw [Date.le_def, final] at inside
            rw [final]
            exact Date.ext_number (by omega)
          rw [if_pos ⟨same.trans final, by rw [same, Date.through_self]; simp⟩, daysFrom?, follows]
          rfl
      | some next =>
          have number := Date.succ?_eq_some.mp follows
          simp only [daysFrom?, follows, Option.bind_eq_bind, Option.bind_some]
          split
          next more =>
            rw [ih more, Date.through_of_succ? follows more]
            simp only [List.length_cons, List.take_succ_cons, Nat.add_le_add_iff_right]
            split <;> rfl
          next done =>
            have same : d = last := Date.ext_number (by
              rw [Date.le_def] at inside done
              omega)
            subst same
            have early : d ≠ Date.last := by
              rintro rfl
              have bound := next.number_le_last
              omega
            simp [early, Date.through_self]

theorem firstDays?_eq (w : DateWindow) (n : Nat) :
    w.firstDays? n =
      if w.last = Date.last ∧ w.size ≤ n then none else some (w.days.take n) := by
  rw [firstDays?, daysFrom?_eq w.first_le_last, ← length_days]
  rfl

theorem days?_eq_none_iff (w : DateWindow) : w.days? = none ↔ w.last = Date.last := by
  rw [days?, firstDays?_eq]
  simp

theorem days?_eq_some {w : DateWindow} (bounded : w.last < Date.last) : w.days? = some w.days := by
  have early : ¬ (w.last = Date.last ∧ w.size ≤ w.size) := by
    rintro ⟨ends, -⟩
    rw [ends] at bounded
    exact Int.lt_irrefl _ bounded
  rw [days?, firstDays?_eq, if_neg early, List.take_of_length_le (Nat.le_of_eq w.length_days)]

end DateWindow

end CurvePnl
