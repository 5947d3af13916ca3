import CurvePnl.Proofs.Series

/-! # Samples in the order of their dates

Files list samples in any order. A series has its samples in the order of their dates, so a series
is known by its samples in whatever order they are listed.
-/

namespace CurvePnl

variable {α : Type}

/-- The samples in the order of their dates. Those of one date keep their order. -/
def byDate (l : List (Sample α)) : List (Sample α) := l.mergeSort fun a b => a.1 ≤ b.1

theorem perm_byDate (l : List (Sample α)) : (byDate l).Perm l := List.mergeSort_perm l _

theorem pairwise_byDate (l : List (Sample α)) : (byDate l).Pairwise fun a b => a.1 ≤ b.1 := by
  have trans (a b c : Sample α) (first : decide (a.1 ≤ b.1) = true)
      (second : decide (b.1 ≤ c.1) = true) : decide (a.1 ≤ c.1) = true := by
    rw [decide_eq_true_eq] at first second ⊢
    exact Int.le_trans first second
  have total (a b : Sample α) : (decide (a.1 ≤ b.1) || decide (b.1 ≤ a.1)) = true := by
    rw [Bool.or_eq_true, decide_eq_true_eq, decide_eq_true_eq]
    exact Int.le_total _ _
  have sorted : (byDate l).Pairwise fun a b => decide (a.1 ≤ b.1) = true :=
    List.pairwise_mergeSort trans total l
  exact sorted.imp of_decide_eq_true

namespace DateSeries

theorem byDate_eq {s : DateSeries α} {l : List (Sample α)} (listed : l.Perm s.samples) :
    byDate l = s.samples := by
  have increasing : s.samples.Pairwise fun a b => a.1 ≤ b.1 :=
    s.increasing.imp fun before => Int.le_of_lt before
  have shuffled := (perm_byDate l).trans listed
  refine List.Perm.eq_of_pairwise ?_ (pairwise_byDate l) increasing shuffled
  -- Two samples of one date are the same, as the series has at most one.
  intro a b member member' before after
  have same : a.1 = b.1 := Date.ext_number (Int.le_antisymm before after)
  have first := valueOn?_eq_some_iff.mpr (shuffled.subset member)
  have second := valueOn?_eq_some_iff.mpr member'
  rw [same, second] at first
  exact Prod.ext same (Option.some.inj first).symm

end DateSeries

end CurvePnl
