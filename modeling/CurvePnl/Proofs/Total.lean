import CurvePnl.Matrix
import CurvePnl.Proofs.Window

/-! # The dates of a total

Adding up series neither loses a date nor invents one: the total of a matrix has the dates that
some column has.
-/

namespace CurvePnl

variable {α : Type} [Quantity α]

theorem mem_dates_addOnDate {d e : Date} {v : α} {l : List (Sample α)} :
    e ∈ (addOnDate d v l).map (·.1) ↔ e = d ∨ e ∈ l.map (·.1) := by
  induction l with
  | nil => simp [addOnDate]
  | cons a rest ih =>
      unfold addOnDate
      split
      · simp
      next from_d =>
        split
        · simp only [List.map_cons, List.mem_cons, ih]
          exact or_left_comm
        next to_d =>
          have same : a.1 = d := Date.ext_number (by
            rw [Date.lt_def] at from_d to_d
            omega)
          simp [same]

namespace DateSeries

theorem mem_dates_addAll {totals s : DateSeries α} {d : Date} :
    d ∈ (totals.addAll s).dates ↔ d ∈ totals.dates ∨ d ∈ s.dates := by
  simp only [addAll, dates]
  induction s.samples generalizing totals with
  | nil => simp
  | cons a rest ih =>
      rw [List.foldl_cons, ih, mem_dates_addOnDate, List.map_cons, List.mem_cons, or_assoc,
        or_left_comm]

theorem mem_dates_foldl_addAll {totals : DateSeries α} {l : List (DateSeries α)} {d : Date} :
    d ∈ (l.foldl addAll totals).dates ↔ d ∈ totals.dates ∨ ∃ s ∈ l, d ∈ s.dates := by
  induction l generalizing totals with
  | nil => simp
  | cons s rest ih => simp [ih, mem_dates_addAll, or_assoc]

end DateSeries

theorem PnlMatrix.mem_dates_total {m : PnlMatrix α} {d : Date} :
    d ∈ m.total.dates ↔ ∃ c ∈ m.columns, d ∈ c.series.dates := by
  rw [total, DateSeries.mem_dates_foldl_addAll]
  simp [DateSeries.empty, DateSeries.dates, series]

end CurvePnl
