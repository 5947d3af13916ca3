import CurvePnl.Proofs.Reconstruction
import CurvePnl.Proofs.StoredSeries

/-! # What a total is on a date

The columns of a matrix are added up one after the other, each sample to what its date has so far.
Seen from one date, every column adds at most once, so the total there is the sum of what the
columns have on it, from zero and in their order. Exact sums do not depend on that order, so columns
may be permuted, and added up in groups.
-/

namespace CurvePnl

variable {α : Type} [Quantity α]

/-- The sum of values, from zero and from left to right. -/
def addUp (l : List α) : α := l.foldl (· + ·) Quantity.zero

/-- What there is on a date after one more value, which is added to zero if there was none. -/
def addTo (sum : Option α) (v : α) : Option α := some (sum.getD Quantity.zero + v)

theorem foldl_addTo_some (x : α) (l : List α) : l.foldl addTo (some x) = some (l.foldl (· + ·) x) := by
  induction l generalizing x with
  | nil => rfl
  | cons v rest ih =>
      rw [List.foldl_cons, List.foldl_cons, ← ih]
      rfl

theorem foldl_addTo_none {l : List α} (nonempty : l ≠ []) : l.foldl addTo none = some (addUp l) := by
  cases l with
  | nil => exact absurd rfl nonempty
  | cons v rest =>
      rw [addUp, List.foldl_cons, List.foldl_cons, ← foldl_addTo_some]
      rfl

namespace DateSeries

/-- The values of several series on a date, in their order. -/
def valuesOn (l : List (DateSeries α)) (d : Date) : List α := l.filterMap (·.valueOn? d)

omit [Quantity α] in
theorem ext_valueOn? {s t : DateSeries α} (same : ∀ d, s.valueOn? d = t.valueOn? d) : s = t := by
  apply ext_mem
  rintro ⟨d, v⟩
  rw [← valueOn?_eq_some_iff, ← valueOn?_eq_some_iff, same d]

omit [Quantity α] in
theorem mem_dates_iff {s : DateSeries α} {d : Date} : d ∈ s.dates ↔ ∃ v, s.valueOn? d = some v := by
  simp [dates, valueOn?_eq_some_iff]

theorem valueOn?_addAll (totals s : DateSeries α) (d : Date) :
    (totals.addAll s).valueOn? d = (s.valueOn? d).toList.foldl addTo (totals.valueOn? d) := by
  obtain ⟨samples, increasing⟩ := s
  simp only [addAll]
  induction samples generalizing totals with
  | nil => rfl
  | cons a rest ih =>
      obtain ⟨first, rest_increasing⟩ := List.pairwise_cons.mp increasing
      have added := PlainSeries.lookup_addOnDate totals.increasing a.1 d a.2
      rw [List.foldl_cons, ih _ rest_increasing]
      simp only [valueOn?, added, PlainSeries.lookup_cons_eq_ite a rest d]
      by_cases here : d = a.1
      · -- No later sample has the date of this one.
        subst here
        simp only [PlainSeries.lookup_of_early first, if_true]
        rfl
      · simp only [if_neg here]

/-- Seen from one date, adding up series is adding up their values on it. -/
theorem valueOn?_foldl_addAll (l : List (DateSeries α)) (totals : DateSeries α) (d : Date) :
    (l.foldl addAll totals).valueOn? d = (valuesOn l d).foldl addTo (totals.valueOn? d) := by
  induction l generalizing totals with
  | nil => rfl
  | cons s rest ih =>
      rw [List.foldl_cons, ih, valueOn?_addAll, valuesOn, valuesOn, List.filterMap_cons]
      cases s.valueOn? d <;> rfl

end DateSeries

namespace PnlMatrix

/-- What the columns have on a date, in their order. -/
def valuesOn (m : PnlMatrix α) (d : Date) : List α := DateSeries.valuesOn m.series d

theorem valueOn?_total (m : PnlMatrix α) (d : Date) :
    m.total.valueOn? d = (m.valuesOn d).foldl addTo none :=
  DateSeries.valueOn?_foldl_addAll m.series .empty d

theorem valueOn?_total_of_mem {m : PnlMatrix α} {d : Date} (sampled : d ∈ m.total.dates) :
    m.total.valueOn? d = some (addUp (m.valuesOn d)) := by
  obtain ⟨v, total⟩ := DateSeries.mem_dates_iff.mp sampled
  rw [valueOn?_total] at total ⊢
  apply foldl_addTo_none
  intro none
  rw [none] at total
  cases total

end PnlMatrix

theorem addUp_eq_sum (l : List ℚ) : addUp l = l.sum := List.sum_eq_foldl.symm

theorem foldl_addTo_eq (l : List ℚ) : l.foldl addTo none = if l = [] then none else some l.sum := by
  split
  next empty =>
    rw [empty]
    rfl
  next nonempty => rw [foldl_addTo_none nonempty, addUp_eq_sum]

/-- On each date, `sum` has what `s` and `t` have there, added up if both have something. -/
def DateSeries.IsSum (s t sum : DateSeries ℚ) : Prop :=
  ∀ d, sum.valueOn? d = (s.valueOn? d).merge (· + ·) (t.valueOn? d)

namespace PnlMatrix

/-- Of the columns, only the values that they have on each date matter for an exact total. -/
theorem total_of_perm {m m' : PnlMatrix ℚ} (columns : m.columns.Perm m'.columns) :
    m.total = m'.total := by
  apply DateSeries.ext_valueOn?
  intro d
  have values : (m.valuesOn d).Perm (m'.valuesOn d) := (columns.map _).filterMap _
  rw [valueOn?_total, valueOn?_total, foldl_addTo_eq, foldl_addTo_eq, values.sum_eq]
  simp only [← List.length_eq_zero_iff, values.length_eq]

theorem isSum_total_append (m m' : PnlMatrix ℚ) :
    DateSeries.IsSum m.total m'.total (total ⟨m.columns ++ m'.columns⟩) := by
  intro d
  have values : valuesOn ⟨m.columns ++ m'.columns⟩ d = m.valuesOn d ++ m'.valuesOn d := by
    simp [valuesOn, DateSeries.valuesOn, series]
  rw [valueOn?_total, valueOn?_total, valueOn?_total, values]
  simp only [foldl_addTo_eq, List.append_eq_nil_iff, List.sum_append]
  by_cases first : m.valuesOn d = [] <;> by_cases second : m'.valuesOn d = [] <;>
    simp [first, second]

/-- The total has the dates that some column has, in increasing order. On each of them it is the sum
of what the columns have there, from zero and in the order of the columns. With exact numbers this
order does not matter, and if the columns are dealt into two groups, then the totals of both add up
to the total, date by date. -/
theorem total_sums_each_date :
    (∀ (α : Type) [Quantity α] (m : PnlMatrix α),
      m.total.dates.Pairwise (· < ·) ∧
      (∀ d, d ∈ m.total.dates ↔ ∃ c ∈ m.columns, d ∈ c.series.dates) ∧
      ∀ d ∈ m.total.dates, m.total.valueOn? d = some (addUp (m.valuesOn d))) ∧
    ∀ m : PnlMatrix ℚ,
      (∀ m' : PnlMatrix ℚ, m'.columns.Perm m.columns → m'.total = m.total) ∧
      ∀ one other : PnlMatrix ℚ, (one.columns ++ other.columns).Perm m.columns →
        DateSeries.IsSum one.total other.total m.total := by
  refine ⟨?each_date, fun m => ⟨?permuted, ?grouped⟩⟩
  case each_date =>
    intro α _ m
    refine ⟨PlainSeries.pairwise_plain m.total, fun d => mem_dates_total, ?_⟩
    intro d sampled
    exact valueOn?_total_of_mem sampled
  case permuted =>
    intro m' columns
    exact total_of_perm columns
  case grouped =>
    intro one other columns
    have dealt : total ⟨one.columns ++ other.columns⟩ = m.total := total_of_perm columns
    rw [← dealt]
    exact isSum_total_append one other

/-- Three nodes of which one moves on both days, one on Monday, and one never. -/
def raggedNodes : PnlMatrix ℚ :=
  ⟨[⟨⟨.months, 3⟩, "3M", ⟨[(.friday, 1 / 2), (.monday, 1)], by decide⟩⟩,
    ⟨⟨.years, 1⟩, "1Y", ⟨[(.monday, -3)], by decide⟩⟩,
    ⟨⟨.years, 2⟩, "2Y", .empty⟩]⟩

theorem total_raggedNodes :
    raggedNodes.total.samples = [(.friday, 1 / 2), (.monday, -2)] ∧
      total ⟨raggedNodes.columns.reverse⟩ = raggedNodes.total ∧
      DateSeries.IsSum (total ⟨raggedNodes.columns.drop 1⟩) (total ⟨raggedNodes.columns.take 1⟩)
        raggedNodes.total := by
  obtain ⟨permuted, grouped⟩ := total_sums_each_date.2 raggedNodes
  refine ⟨by decide +kernel, permuted _ (List.reverse_perm _), grouped _ _ ?_⟩
  exact List.perm_append_comm.trans (.of_eq (List.take_append_drop 1 _))

end PnlMatrix

end CurvePnl
