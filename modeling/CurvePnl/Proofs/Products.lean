import CurvePnl.Proofs.ColumnSums
import CurvePnl.Proofs.StockReturns

/-! # Strict and lenient products

Both products look up the dates of the first series in the second, one after the other. They differ
only in what they do about a date that is not there: the strict product stops at the first of them,
the lenient one goes on without it. So they are the same where no date is missing, and dropping the
missing dates beforehand makes them the same.
-/

namespace CurvePnl.DateSeries

variable {α : Type}

/-- The samples of `s` on dates that are sampled in `other`. -/
def onDatesOf (s other : DateSeries α) : DateSeries α :=
  ⟨s.samples.filter (·.1 ∈ other.dates), s.increasing.sublist List.filter_sublist⟩

theorem mem_dates_onDatesOf {s other : DateSeries α} {d : Date} :
    d ∈ (s.onDatesOf other).dates ↔ d ∈ s.dates ∧ d ∈ other.dates := by
  have filtered : (s.onDatesOf other).dates = s.dates.filter (· ∈ other.dates) := by
    simp only [dates, onDatesOf, List.filter_map, Function.comp_def]
  rw [filtered, List.mem_filter, decide_eq_true_eq]

/-- `d` is the earliest date of `s` that `other` lacks. -/
structure IsFirstMissing (s other : DateSeries α) (d : Date) : Prop where
  sampled : d ∈ s.dates
  missing : d ∉ other.dates
  earliest : ∀ e ∈ s.dates, e ∉ other.dates → d ≤ e

theorem not_mem_dates_iff {s : DateSeries α} {d : Date} : d ∉ s.dates ↔ s.valueOn? d = none := by
  rw [mem_dates_iff, ← Option.isSome_iff_exists, Option.not_isSome_iff_eq_none]

/-- The first sample of `s` for which a search in `other` finds nothing. -/
def firstMissing? (s other : DateSeries α) : Option (Sample α) :=
  s.samples.find? fun a => (other.valueOn? a.1).isNone

theorem firstMissing?_eq_none_iff {s other : DateSeries α} :
    s.firstMissing? other = none ↔ ∀ d ∈ s.dates, d ∈ other.dates := by
  simp only [firstMissing?, List.find?_eq_none, dates, List.forall_mem_map,
    ← not_mem_dates_iff.trans Option.isNone_iff_eq_none.symm, not_not]

theorem isFirstMissing_of_eq_some {s other : DateSeries α} {a : Sample α}
    (found : s.firstMissing? other = some a) : s.IsFirstMissing other a.1 := by
  refine ⟨List.mem_map_of_mem (List.mem_of_find?_eq_some found), ?missing, ?earliest⟩
  case missing =>
    exact not_mem_dates_iff.mpr (Option.isNone_iff_eq_none.mp (List.find?_some found :))
  case earliest =>
    intro e sampled missing
    obtain ⟨b, member, rfl⟩ := List.mem_map.mp sampled
    refine date_le_of_find?_eq_some s.increasing found member ?_
    exact Option.isNone_iff_eq_none.mpr (not_mem_dates_iff.mp missing)

theorem ext_result {x y : Except ValueError (DateSeries α)}
    (same : x.map samples = y.map samples) : x = y := by
  cases x <;> cases y <;>
    simp only [Except.map, Except.error.injEq, Except.ok.injEq, reduceCtorEq] at same
  · rw [same]
  · rw [ext_samples same]

variable [Quantity α]

theorem multiplyAligned_eq (s other : DateSeries α) (context : String) :
    s.multiplyAligned other context =
      match s.firstMissing? other with
      | some a => .error (.misaligned a.1 context)
      | none => .ok (s.multiplyCommon other) := by
  apply ext_result
  rw [PlainSeries.samples_multiplyAligned, alignedProducts_eq, ← firstMissing?]
  cases s.firstMissing? other <;> rfl

theorem valueOn?_multiplyCommon (s other : DateSeries α) (d : Date) :
    (s.multiplyCommon other).valueOn? d =
      (s.valueOn? d).bind fun v => (other.valueOn? d).map (v * ·) := by
  ext p
  rw [valueOn?_eq_some_iff]
  simp only [multiplyCommon, commonProduct?, List.mem_filterMap, Option.map_eq_some_iff,
    Option.bind_eq_some_iff, valueOn?_eq_some_iff, Prod.exists, Prod.mk.injEq]
  constructor
  · rintro ⟨e, v, sampled, factor, found, rfl, rfl⟩
    exact ⟨v, sampled, factor, found, rfl⟩
  · rintro ⟨v, sampled, factor, found, rfl⟩
    exact ⟨d, v, sampled, factor, found, rfl, rfl⟩

theorem mem_dates_multiplyCommon {s other : DateSeries α} {d : Date} :
    d ∈ (s.multiplyCommon other).dates ↔ d ∈ s.dates ∧ d ∈ other.dates := by
  simp only [mem_dates_iff, valueOn?_multiplyCommon]
  cases s.valueOn? d <;> cases other.valueOn? d <;> simp

/-- Samples without a partner do not matter to a lenient product. -/
theorem multiplyCommon_onDatesOf (s other : DateSeries α) :
    (s.onDatesOf other).multiplyCommon other = s.multiplyCommon other := by
  apply ext_samples
  simp only [multiplyCommon, onDatesOf, List.filterMap_filter]
  refine List.filterMap_congr fun a member => ?_
  split
  · rfl
  next missing =>
    rw [decide_eq_true_eq, not_mem_dates_iff] at missing
    rw [commonProduct?, missing, Option.map_none]

/-- Of the second series, only the values on dates of the first matter to a product. -/
theorem products_congr {s other other' : DateSeries α} (context : String)
    (same : ∀ d ∈ s.dates, other'.valueOn? d = other.valueOn? d) :
    s.multiplyAligned other' context = s.multiplyAligned other context ∧
      s.multiplyCommon other' = s.multiplyCommon other := by
  have common : s.multiplyCommon other' = s.multiplyCommon other := by
    apply ext_samples
    refine List.filterMap_congr fun a member => ?_
    rw [commonProduct?, commonProduct?, same a.1 (List.mem_map_of_mem member)]
  have missing : s.firstMissing? other' = s.firstMissing? other := by
    rw [firstMissing?, firstMissing?, ← List.head?_filter, ← List.head?_filter]
    refine congrArg List.head? (List.filter_congr fun a member => ?_)
    rw [same a.1 (List.mem_map_of_mem member)]
  exact ⟨by rw [multiplyAligned_eq, multiplyAligned_eq, common, missing], common⟩

/-- A strict product exists exactly if the second series has every date of the first, and is then
the lenient product; otherwise its error tells the earliest date that is missing. The lenient
product has the dates of both series, with the product of the two values on each, and is the strict
product of the first series without the dates that are missing. What the second series has on other
dates matters to neither. Products of the stored lists, in which dates are found by halving, are the
same. -/
theorem strict_and_lenient_products_agree (s other : DateSeries α) (context : String) :
    ((∃ p, s.multiplyAligned other context = .ok p) ↔ ∀ d ∈ s.dates, d ∈ other.dates) ∧
    (∀ p, s.multiplyAligned other context = .ok p → p = s.multiplyCommon other) ∧
    ((¬ ∀ d ∈ s.dates, d ∈ other.dates) → ∃ d, s.IsFirstMissing other d ∧
      s.multiplyAligned other context = .error (.misaligned d context)) ∧
    (∀ d, d ∈ (s.multiplyCommon other).dates ↔ d ∈ s.dates ∧ d ∈ other.dates) ∧
    (∀ d v factor, s.valueOn? d = some v → other.valueOn? d = some factor →
      (s.multiplyCommon other).valueOn? d = some (v * factor)) ∧
    (s.onDatesOf other).multiplyAligned other context = .ok (s.multiplyCommon other) ∧
    (∀ other' : DateSeries α, (∀ d ∈ s.dates, other'.valueOn? d = other.valueOn? d) →
      s.multiplyAligned other' context = s.multiplyAligned other context ∧
        s.multiplyCommon other' = s.multiplyCommon other) ∧
    s.plain.multiplyAligned other.plain context =
      (s.multiplyAligned other context).map DateSeries.plain ∧
    s.plain.multiplyCommon other.plain = (s.multiplyCommon other).plain := by
  have strict := multiplyAligned_eq s other context
  refine ⟨?succeeds, ?equal, ?fails, fun d => mem_dates_multiplyCommon, ?values, ?restricted,
    fun other' => products_congr context, PlainSeries.multiplyAligned_eq s other context,
    PlainSeries.multiplyCommon_eq s other⟩
  case succeeds =>
    rw [← firstMissing?_eq_none_iff, strict]
    cases s.firstMissing? other <;> simp
  case equal =>
    intro p product
    rw [strict] at product
    split at product
    · cases product
    · exact (Except.ok.inj product).symm
  case fails =>
    intro lacking
    rw [← firstMissing?_eq_none_iff, ← ne_eq, Option.ne_none_iff_exists'] at lacking
    obtain ⟨a, found⟩ := lacking
    rw [found] at strict
    exact ⟨a.1, isFirstMissing_of_eq_some found, strict⟩
  case values =>
    intro d v factor value found
    rw [valueOn?_multiplyCommon, value, found, Option.bind_some, Option.map_some]
  case restricted =>
    have covered : (s.onDatesOf other).firstMissing? other = none :=
      firstMissing?_eq_none_iff.mpr fun d member => (mem_dates_onDatesOf.mp member).2
    rw [multiplyAligned_eq, covered, multiplyCommon_onDatesOf]

/-- Profit and loss on two days, of which the rates lack the second. -/
def twoDays : DateSeries ℚ := ⟨[(.friday, 2), (.monday, 5)], by decide⟩

def fridayRate : DateSeries ℚ := ⟨[(.friday, 3)], by decide⟩

theorem products_of_twoDays :
    twoDays.multiplyAligned fridayRate "fx" = .error (.misaligned .monday "fx") ∧
      (twoDays.multiplyCommon fridayRate).valueOn? .friday = some 6 ∧
      (twoDays.onDatesOf fridayRate).multiplyAligned fridayRate "fx" =
        .ok (twoDays.multiplyCommon fridayRate) ∧
      fridayRate.multiplyAligned twoDays "fx" = .ok (fridayRate.multiplyCommon twoDays) ∧
      fridayRate.multiplyCommon (twoDays.onDatesOf fridayRate) =
        fridayRate.multiplyCommon twoDays := by
  obtain ⟨-, -, fails, -, values, restricted, -, -, -⟩ :=
    strict_and_lenient_products_agree twoDays fridayRate "fx"
  obtain ⟨succeeds, equal, -, -, -, -, further, -, -⟩ :=
    strict_and_lenient_products_agree fridayRate twoDays "fx"
  obtain ⟨d, first, error⟩ := fails (by decide)
  obtain ⟨p, product⟩ := succeeds.mpr (by decide)
  refine ⟨?_, ?_, restricted, ?_, (further _ (by decide)).2⟩
  · have sampled : d ∈ [.friday, .monday] := first.sampled
    have missing : d ∉ [.friday] := first.missing
    have monday : d = .monday := by simp_all
    rwa [monday] at error
  · rw [values .friday 2 3 rfl rfl]
    norm_num
  · rw [product, equal p product]

end CurvePnl.DateSeries
