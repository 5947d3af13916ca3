import CurvePnl.Proofs.Series
import CurvePnl.Proofs.Window
import CurvePnl.Series.Trim

/-! # What is left of a series after a cut

Samples stand in the order of their dates, so cutting off the first or the last of them leaves
exactly those with a date in between. Trimming to a start leaves one sample more, the last before
the start.
-/

namespace CurvePnl

variable {α : Type} {l : List (Sample α)}

theorem filter_from_eq_self {start : Date} (late : ∀ a ∈ l, start ≤ a.1) :
    l.filter (start ≤ ·.1) = l := by
  rw [List.filter_eq_self]
  intro a member
  exact decide_eq_true (late a member)

theorem filter_before_eq_nil {start : Date} (late : ∀ a ∈ l, start ≤ a.1) :
    l.filter (·.1 < start) = [] := by
  rw [List.filter_eq_nil_iff]
  intro a member before
  have after := late a member
  rw [decide_eq_true_eq, Date.lt_def] at before
  rw [Date.le_def] at after
  omega

theorem late_of_cons {start : Date} {a : Sample α} {rest : List (Sample α)}
    (increasing : (a :: rest).Pairwise fun a b => a.1 < b.1) (late : ¬ a.1 < start) :
    ∀ b ∈ a :: rest, start ≤ b.1 := by
  have first : start ≤ a.1 := Int.not_lt.mp late
  refine List.forall_mem_cons.mpr ⟨first, fun b member => ?_⟩
  exact Int.le_trans first (Int.le_of_lt ((List.pairwise_cons.mp increasing).1 b member))

theorem dropWhile_before (increasing : l.Pairwise fun a b => a.1 < b.1) (first : Date) :
    l.dropWhile (·.1 < first) = l.filter (first ≤ ·.1) := by
  induction l with
  | nil => rfl
  | cons a rest ih =>
      by_cases early : a.1 < first
      · have outside : ¬ first ≤ a.1 := Int.not_le.mpr early
        rw [List.dropWhile_cons_of_pos (by simpa using early),
          List.filter_cons_of_neg (by simpa using outside)]
        exact ih (List.pairwise_cons.mp increasing).2
      · rw [List.dropWhile_cons_of_neg (by simpa using early),
          filter_from_eq_self (late_of_cons increasing early)]

theorem takeWhile_through (increasing : l.Pairwise fun a b => a.1 < b.1) (last : Date) :
    l.takeWhile (·.1 ≤ last) = l.filter (·.1 ≤ last) := by
  induction l with
  | nil => rfl
  | cons a rest ih =>
      obtain ⟨later, rest_increasing⟩ := List.pairwise_cons.mp increasing
      by_cases inside : a.1 ≤ last
      · rw [List.takeWhile_cons_of_pos (by simpa using inside),
          List.filter_cons_of_pos (by simpa using inside), ih rest_increasing]
      · have outside : ∀ b ∈ a :: rest, ¬ b.1 ≤ last := by
          refine List.forall_mem_cons.mpr ⟨inside, fun b member reached => inside ?_⟩
          exact Int.le_trans (Int.le_of_lt (later b member)) reached
        rw [List.takeWhile_cons_of_neg (by simpa using inside), eq_comm, List.filter_eq_nil_iff]
        simpa using outside

theorem baseAndAfter_eq (increasing : l.Pairwise fun a b => a.1 < b.1) (start : Date) :
    baseAndAfter start l =
      (l.filter (·.1 < start)).getLast?.toList ++ l.filter (start ≤ ·.1) := by
  induction l with
  | nil => rfl
  | cons a rest ih =>
      by_cases early : a.1 < start
      · have outside : ¬ start ≤ a.1 := Int.not_le.mpr early
        rw [List.filter_cons_of_pos (by simpa using early),
          List.filter_cons_of_neg (by simpa using outside)]
        cases rest with
        | nil => rfl
        | cons b rest =>
            have rest_increasing := (List.pairwise_cons.mp increasing).2
            unfold baseAndAfter
            split
            next more =>
              rw [ih rest_increasing, List.filter_cons_of_pos (by simpa using more),
                List.getLast?_cons_cons]
            next base =>
              have late := late_of_cons rest_increasing base
              rw [filter_before_eq_nil late, filter_from_eq_self late]
              rfl
      · have late := late_of_cons increasing early
        rw [filter_before_eq_nil late, filter_from_eq_self late]
        cases rest with
        | nil => rfl
        | cons b rest =>
            have second : ¬ b.1 < start := Int.not_lt.mpr (late b (by simp))
            rw [baseAndAfter, if_neg second]
            rfl

namespace DateSeries

variable (s : DateSeries α)

theorem samples_between (first last : Date) :
    (s.between first last).samples = s.samples.filter fun a => first ≤ a.1 ∧ a.1 ≤ last := by
  have kept := s.increasing.sublist (List.filter_sublist (p := fun a => first ≤ a.1))
  have cut : (s.between first last).samples =
      (s.samples.dropWhile (·.1 < first)).takeWhile (·.1 ≤ last) := rfl
  rw [cut, dropWhile_before s.increasing, takeWhile_through kept, List.filter_filter]
  simp only [Bool.decide_and, Bool.and_comm]

theorem mem_samples_between {s : DateSeries α} {first last : Date} {a : Sample α} :
    a ∈ (s.between first last).samples ↔ a ∈ s.samples ∧ first ≤ a.1 ∧ a.1 ≤ last := by
  rw [samples_between, List.mem_filter, decide_eq_true_eq]

theorem samples_trimTo (start : Date) :
    (s.trimTo start).samples = (s.samples.filter (·.1 < start)).getLast?.toList ++
      s.samples.filter (start ≤ ·.1) :=
  baseAndAfter_eq s.increasing start

end DateSeries

end CurvePnl
