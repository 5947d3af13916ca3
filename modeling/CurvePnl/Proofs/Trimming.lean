import CurvePnl.Proofs.ReplayDays
import CurvePnl.Proofs.StoredSeries

/-! # What trimming depends on

A sample is left by a trim exactly if no sample before the start is later than it. So the trim looks
at the base sample and at what follows, and at nothing earlier: cutting samples off in front of the
base changes nothing, and neither does a trim to an earlier start. The history that a replay finds
of a tenor is cut in the same way if fewer days are replayed.
-/

namespace CurvePnl

variable {α : Type}

theorem getLast?_eq_some_iff_latest {l : List (Sample α)}
    (increasing : l.Pairwise fun a b => a.1 < b.1) {a : Sample α} :
    l.getLast? = some a ↔ a ∈ l ∧ ∀ b ∈ l, b.1 ≤ a.1 := by
  rcases List.eq_nil_or_concat l with rfl | ⟨front, last, rfl⟩
  · simp
  · rw [List.concat_eq_append] at increasing ⊢
    obtain ⟨-, -, later⟩ := List.pairwise_append.mp increasing
    rw [List.getLast?_concat, Option.some.injEq]
    constructor
    · rintro rfl
      refine ⟨by simp, fun b member => ?_⟩
      rcases List.mem_append.mp member with earlier | final
      · exact Int.le_of_lt (later b earlier last (List.mem_singleton_self last))
      · rw [List.mem_singleton.mp final]
        exact Int.le_refl _
    · rintro ⟨member, latest⟩
      rcases List.mem_append.mp member with earlier | final
      · have before := later a earlier last (List.mem_singleton_self last)
        exact absurd (latest last (by simp)) (Int.not_le.mpr before)
      · exact (List.mem_singleton.mp final).symm

namespace DateSeries

variable {s : DateSeries α} {start : Date}

/-- Trimming drops the samples that another sample before the start comes after. -/
theorem mem_trimTo {a : Sample α} :
    a ∈ (s.trimTo start).samples ↔
      a ∈ s.samples ∧ ∀ b ∈ s.samples, b.1 < start → b.1 ≤ a.1 := by
  have early := s.increasing.sublist (List.filter_sublist (p := fun a => a.1 < start))
  simp only [samples_trimTo, List.mem_append, Option.mem_toList,
    getLast?_eq_some_iff_latest early, List.mem_filter, decide_eq_true_eq]
  constructor
  · rintro (⟨⟨member, -⟩, latest⟩ | ⟨member, late⟩)
    · exact ⟨member, fun b member before => latest b ⟨member, before⟩⟩
    · exact ⟨member, fun b _ before => Int.le_trans (Int.le_of_lt before) late⟩
  · rintro ⟨member, latest⟩
    by_cases before : a.1 < start
    · exact .inl ⟨⟨member, before⟩, fun b ⟨member, before⟩ => latest b member before⟩
    · exact .inr ⟨member, Int.not_lt.mp before⟩

theorem trimTo_trimTo (s : DateSeries α) {first second : Date} (order : first ≤ second) :
    (s.trimTo first).trimTo second = s.trimTo second := by
  apply ext_mem
  intro a
  rw [mem_trimTo, mem_trimTo, mem_trimTo]
  constructor
  · rintro ⟨⟨member, latest⟩, latest'⟩
    refine ⟨member, fun b member before => ?_⟩
    by_cases left : b ∈ (s.trimTo first).samples
    · exact latest' b left before
    · -- What the first trim drops is earlier than its base, and the base is not after `a`.
      simp only [mem_trimTo, member, true_and, not_forall] at left
      obtain ⟨base, member, before, later⟩ := left
      exact Int.le_trans (Int.le_of_lt (Int.not_le.mp later)) (latest base member before)
  · rintro ⟨member, latest⟩
    refine ⟨⟨member, fun b member before => ?_⟩, fun b left => latest b (mem_trimTo.mp left).1⟩
    exact latest b member (Int.lt_of_lt_of_le before order)

/-- What is fetched from before the lead does not matter if there is a sample in the lead. -/
theorem trimTo_between {a b last : Date} (bounded : start ≤ last) (longer : a ≤ b)
    (base : ∃ x ∈ s.samples, b ≤ x.1 ∧ x.1 < start) :
    (s.between a last).trimTo start = (s.between b last).trimTo start := by
  obtain ⟨x, sampled, inside, before⟩ := base
  rw [Date.le_def] at bounded longer inside
  rw [Date.lt_def] at before
  apply ext_mem
  intro y
  simp only [mem_trimTo, mem_samples_between, Date.le_def, Date.lt_def]
  constructor
  · rintro ⟨⟨member, -, upper⟩, latest⟩
    have after := latest x ⟨sampled, by omega, by omega⟩ before
    refine ⟨⟨member, by omega, upper⟩, ?_⟩
    rintro z ⟨member, lower, upper⟩ before
    exact latest z ⟨member, by omega, upper⟩ before
  · rintro ⟨⟨member, lower, upper⟩, latest⟩
    refine ⟨⟨member, by omega, upper⟩, ?_⟩
    rintro z ⟨member, -, upper⟩ before
    by_cases lead : b.number ≤ z.1.number
    · exact latest z ⟨member, lead, upper⟩ before
    · omega

theorem samples_trimTo_suffix (s : DateSeries α) (start : Date) :
    (s.trimTo start).samples <:+ s.samples := by
  have dropped : (s.trimTo start).samples = _ := PlainSeries.baseAndAfter_eq_drop s.increasing
  rw [dropped]
  exact List.drop_suffix _ _

theorem lastDate?_trimTo (s : DateSeries α) (start : Date) :
    (s.trimTo start).lastDate? = s.lastDate? := by
  rw [lastDate?, lastDate?]
  congr 1
  cases final : s.samples.getLast? with
  | none =>
      rw [List.getLast?_eq_none_iff] at final ⊢
      exact List.suffix_nil.mp (final ▸ samples_trimTo_suffix s start)
  | some a =>
      rw [getLast?_eq_some_iff_latest s.increasing] at final
      rw [getLast?_eq_some_iff_latest (s.trimTo start).increasing]
      obtain ⟨member, latest⟩ := final
      refine ⟨mem_trimTo.mpr ⟨member, fun b member _ => latest b member⟩, ?_⟩
      intro b left
      exact latest b (mem_trimTo.mp left).1

end DateSeries

namespace Sources

variable {s : Sources α}

theorem between_of_harvest {construction : ConstructionName} {tenor : Tenor} {w longer : DateWindow}
    {rates more : DateSeries α} (lengthens : longer.Lengthens w)
    (harvested : rates.samples = s.harvest construction w.days tenor)
    (harvested' : more.samples = s.harvest construction longer.days tenor) :
    rates = more.between w.first w.last := by
  apply DateSeries.ext_mem
  rintro ⟨d, rate⟩
  rw [DateSeries.mem_samples_between, harvested, harvested', mem_harvest, mem_harvest,
    DateWindow.mem_days, DateWindow.mem_days, lengthens.ends]
  constructor
  · rintro ⟨⟨lower, upper⟩, point⟩
    exact ⟨⟨⟨Int.le_trans lengthens.begins lower, upper⟩, point⟩, lower, upper⟩
  · rintro ⟨⟨-, point⟩, inside⟩
    exact ⟨inside, point⟩

theorem trimTo_of_harvest {construction : ConstructionName} {tenor : Tenor} {w longer : DateWindow}
    {rates more : DateSeries α} {start : Date} (lengthens : longer.Lengthens w)
    (harvested : rates.samples = s.harvest construction w.days tenor)
    (harvested' : more.samples = s.harvest construction longer.days tenor)
    (bounded : start ≤ w.last) (base : ∃ a ∈ rates.samples, a.1 < start) :
    more.trimTo start = rates.trimTo start := by
  have cut : rates = more.between w.first w.last :=
    between_of_harvest lengthens harvested harvested'
  have whole : more = more.between longer.first w.last :=
    lengthens.ends ▸ between_of_harvest ⟨Int.le_refl _, rfl⟩ harvested' harvested'
  have sampled : ∃ a ∈ more.samples, w.first ≤ a.1 ∧ a.1 < start := by
    obtain ⟨a, member, before⟩ := base
    rw [cut] at member
    obtain ⟨member, lower, -⟩ := DateSeries.mem_samples_between.mp member
    exact ⟨a, member, lower, before⟩
  rw [whole, cut]
  exact DateSeries.trimTo_between bounded lengthens.begins sampled

end Sources

end CurvePnl
