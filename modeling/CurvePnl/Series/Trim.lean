import CurvePnl.Series.Basic

/-! # Trimming a history to its base sample

The first return of a window needs one sample from before it. A history that reaches back further
is cut down to the last sample before the window and all that follow.
-/

namespace CurvePnl

/-- Drops the first sample as long as the second is still before `start`. -/
def baseAndAfter (start : Date) : List (Sample α) → List (Sample α)
  | a :: b :: rest =>
    if b.1 < start then baseAndAfter start (b :: rest) else a :: b :: rest
  | l => l

theorem baseAndAfter_sublist (start : Date) (l : List (Sample α)) :
    (baseAndAfter start l).Sublist l := by
  induction l with
  | nil => exact .slnil
  | cons a rest ih =>
    cases rest with
    | nil => exact List.Sublist.refl _
    | cons b rest =>
      unfold baseAndAfter
      split
      · exact ih.cons a
      · exact List.Sublist.refl _

namespace DateSeries

/-- The last sample strictly before `start` and all samples after it; the whole series if there is
no sample before `start`. -/
def trimTo (s : DateSeries α) (start : Date) : DateSeries α :=
  ⟨baseAndAfter start s.samples, s.increasing.sublist (baseAndAfter_sublist start _)⟩

end DateSeries

end CurvePnl
