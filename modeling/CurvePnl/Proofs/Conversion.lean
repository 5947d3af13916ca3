import CurvePnl.Proofs.Series
import CurvePnl.Proofs.Work

/-! # Which conversion a run finds, and what it does

The rates of a conversion are described by the answers of the sources, and a converted series by
the series it comes from. Rates of both modes are output currency for one unit of native currency,
but the spot rates divide where the snapshot rate multiplies.
-/

namespace CurvePnl

variable {α : Type} [Quantity α]

theorem conversionNeeded_eq_none {native : Currency} {output : Option Currency} :
    conversionNeeded native output = none ↔ output = none ∨ output = some native := by
  cases output <;> simp [conversionNeeded, Option.filter]

theorem conversionNeeded_eq_some {native target : Currency} {output : Option Currency} :
    conversionNeeded native output = some target ↔ output = some target ∧ target ≠ native := by
  cases output <;> simp [conversionNeeded, Option.filter]
  grind

namespace Sources

variable (s : Sources α)

/-- `rates` say how much `output` one unit of `native` is worth: the history of the quoted pair,
inverted if it is quoted the other way round. -/
def ConversionRates (native output : Currency) (window : DateWindow)
    (rates : DateSeries α) : Prop :=
  ∃ pair history, s.pair (.of native output) = .ok pair ∧
    s.fxHistory pair window = .ok history ∧
    if pair.base = native then rates = history else history.reciprocal = .ok rates

/-- The conversion that an output currency calls for: none if there is no output currency or it is
the native one, and otherwise the rates of the mode. -/
inductive PnlConversion (native : Currency) (window : DateWindow) (on : Date) :
    Option Currency → ConversionMode → Conversion α → Prop where
  | unasked {mode} : PnlConversion native window on none mode .identity
  | native {mode} : PnlConversion native window on (some native) mode .identity
  | spot {output rates} (different : output ≠ native)
      (found : s.ConversionRates native output window rates) :
      PnlConversion native window on (some output) .historicalSpot (.historicalSpot rates)
  | snapshot {output rate} (different : output ≠ native)
      (found : s.fxRate native output on = .ok rate) :
      PnlConversion native window on (some output) .snapshot (.snapshot rate)

theorem outcome_conversionSeries_eq_ok {native output : Currency} {window : DateWindow}
    {rates : DateSeries α} {j : Journal α} :
    (s.conversionSeries native output window).outcome j = .ok rates ↔
      s.ConversionRates native output window rates := by
  have oriented (pair : CurrencyPair) (history : DateSeries α) (j : Journal α) :
      (if pair.base = native then (pure history : Work α _)
        else Work.ofValues history.reciprocal).outcome j = .ok rates ↔
      if pair.base = native then rates = history else history.reciprocal = .ok rates := by
    split
    · simp [eq_comm]
    · exact Work.outcome_ofValues_eq_ok
  simp [conversionSeries, askPair, askFxHistory, oriented, ConversionRates]

omit [Quantity α] in
theorem outcome_snapshotRate_eq_ok {native output : Currency} {on : Date} {rate : α}
    {j : Journal α} :
    (s.snapshotRate native output on).outcome j = .ok rate ↔
      s.fxRate native output on = .ok rate := by
  simp [snapshotRate, askFxRate]

theorem outcome_pnlConversion_eq_ok {native : Currency} {output : Option Currency}
    {mode : ConversionMode} {window : DateWindow} {on : Date} {c : Conversion α} {j : Journal α} :
    (s.pnlConversion native output mode window on).outcome j = .ok c ↔
      s.PnlConversion native window on output mode c := by
  unfold pnlConversion
  split
  next none =>
    rcases conversionNeeded_eq_none.mp none with rfl | rfl
    · constructor
      · intro h
        cases h
        exact .unasked
      · intro h
        cases h
        rfl
    · constructor
      · intro h
        cases h
        exact .native
      · intro h
        cases h with
        | native => rfl
        | spot different => exact absurd rfl different
        | snapshot different => exact absurd rfl different
  next target needed =>
    obtain ⟨rfl, different⟩ := conversionNeeded_eq_some.mp needed
    cases mode with
    | historicalSpot =>
        simp only [bind_pure_comp, Work.outcome_map_eq_ok, outcome_conversionSeries_eq_ok]
        constructor
        · rintro ⟨rates, found, rfl⟩
          exact .spot different found
        · intro h
          cases h with
          | native => exact absurd rfl different
          | spot _ found => exact ⟨_, found, rfl⟩
    | snapshot =>
        simp only [bind_pure_comp, Work.outcome_map_eq_ok, outcome_snapshotRate_eq_ok]
        constructor
        · rintro ⟨rate, found, rfl⟩
          exact .snapshot different found
        · intro h
          cases h with
          | native => exact absurd rfl different
          | snapshot _ found => exact ⟨_, found, rfl⟩

end Sources

namespace Conversion

/-- `converted` is what a conversion makes of a series. -/
inductive Converts : Conversion α → DateSeries α → DateSeries α → Prop where
  | identity {pnl} : Converts .identity pnl pnl
  | historicalSpot {rates factors pnl} (inverted : rates.reciprocal = .ok factors) :
      Converts (.historicalSpot rates) pnl (pnl.multiplyCommon factors)
  | snapshot {rate pnl} : Converts (.snapshot rate) pnl (pnl.scale rate)

theorem outcome_apply_eq_ok {c : Conversion α} {pnl converted : DateSeries α} {j : Journal α} :
    (c.apply pnl).outcome j = .ok converted ↔ c.Converts pnl converted := by
  constructor
  · intro h
    cases c with
    | identity =>
        cases h
        exact .identity
    | historicalSpot rates =>
        simp [apply] at h
        obtain ⟨factors, inverted, rfl⟩ := h
        exact .historicalSpot inverted
    | snapshot rate =>
        cases h
        exact .snapshot
  · intro h
    cases h with
    | identity => rfl
    | historicalSpot inverted => simp [apply, inverted]
    | snapshot => rfl

theorem Converts.of_constant {rates pnl : DateSeries α} {rate : α}
    (sampled : ∀ d ∈ pnl.dates, (rates.valueOn? d).isSome) (constant : ∀ v ∈ rates.values, v = rate)
    (nonzero : Quantity.isZero rate = false) :
    (.historicalSpot rates : Conversion α).Converts pnl (pnl.scale (Quantity.one / rate)) := by
  have inverted := DateSeries.reciprocal_of_nonzero
    (fun v hv => (congrArg Quantity.isZero (constant v hv)).trans nonzero)
  have factor : ∀ d ∈ pnl.dates,
      (rates.mapValues (Quantity.one / ·)).valueOn? d = some (Quantity.one / rate) := by
    intro d hd
    obtain ⟨v, found⟩ := Option.isSome_iff_exists.mp (sampled d hd)
    rw [DateSeries.valueOn?_mapValues, found, Option.map_some,
      constant v (DateSeries.mem_values_of_valueOn? found)]
  have converted : (.historicalSpot rates : Conversion α).Converts pnl _ := .historicalSpot inverted
  rwa [DateSeries.multiplyCommon_eq_scale factor] at converted

end Conversion

namespace DateSeries

theorem scale_eq_scale_iff {s : DateSeries α} {x y : α} :
    s.scale x = s.scale y ↔ ∀ v ∈ s.values, v * x = v * y := by
  constructor
  · intro same v hv
    obtain ⟨a, ha, rfl⟩ := List.mem_map.mp hv
    have samples := congrArg DateSeries.samples same
    simp only [scale, mapValues, List.map_inj_left, Prod.mk.injEq, true_and] at samples
    exact samples a ha
  · intro same
    apply ext_samples
    simp only [scale, mapValues, List.map_inj_left, Prod.mk.injEq, true_and]
    intro a ha
    exact same a.2 (List.mem_map_of_mem ha)

end DateSeries

namespace Sources

variable (s : Sources α)

/-- Profit and loss converted as a run does it: the conversion is found, then applied. -/
def convertPnl (native output : Currency) (mode : ConversionMode) (window : DateWindow)
    (on : Date) (pnl : DateSeries α) : Work α (DateSeries α) := do
  (← s.pnlConversion native (some output) mode window on).apply pnl

/-- Spot rates that all equal the snapshot rate divide by it where the snapshot multiplies, so the
modes agree exactly if that makes no difference to any sample. -/
theorem convertPnl_spot_eq_snapshot_iff {native output : Currency} (different : output ≠ native)
    (window : DateWindow) (on : Date) (pnl : DateSeries α) (j : Journal α)
    {rates : DateSeries α} {rate : α}
    (series : (s.conversionSeries native output window).outcome j = .ok rates)
    (snapshot : (s.snapshotRate native output on).outcome j = .ok rate)
    (sampled : ∀ d ∈ pnl.dates, (rates.valueOn? d).isSome)
    (constant : ∀ v ∈ rates.values, v = rate) (nonzero : Quantity.isZero rate = false) :
    (s.convertPnl native output .historicalSpot window on pnl).outcome j =
        .ok (pnl.scale (Quantity.one / rate)) ∧
      (s.convertPnl native output .snapshot window on pnl).outcome j = .ok (pnl.scale rate) ∧
      ((s.convertPnl native output .historicalSpot window on pnl).outcome j =
          (s.convertPnl native output .snapshot window on pnl).outcome j ↔
        ∀ v ∈ pnl.values, v * (Quantity.one / rate) = v * rate) := by
  have bySpot : (s.convertPnl native output .historicalSpot window on pnl).outcome j =
      .ok (pnl.scale (Quantity.one / rate)) := by
    have found := s.outcome_conversionSeries_eq_ok.mp series
    have conversion : (s.pnlConversion native (some output) .historicalSpot window on).outcome j =
        .ok (.historicalSpot rates) := s.outcome_pnlConversion_eq_ok.mpr (.spot different found)
    have applied := Conversion.Converts.of_constant sampled constant nonzero
    exact Work.outcome_bind_eq_ok.mpr
      ⟨_, conversion, Conversion.outcome_apply_eq_ok.mpr applied⟩
  have bySnapshot : (s.convertPnl native output .snapshot window on pnl).outcome j =
      .ok (pnl.scale rate) := by
    have found := s.outcome_snapshotRate_eq_ok.mp snapshot
    have conversion : (s.pnlConversion native (some output) .snapshot window on).outcome j =
        .ok (.snapshot rate) := s.outcome_pnlConversion_eq_ok.mpr (.snapshot different found)
    exact Work.outcome_bind_eq_ok.mpr
      ⟨_, conversion, Conversion.outcome_apply_eq_ok.mpr .snapshot⟩
  refine ⟨bySpot, bySnapshot, ?_⟩
  rw [bySpot, bySnapshot, Except.ok.injEq]
  exact DateSeries.scale_eq_scale_iff

/-- One euro is worth two dollars, in the history as in the snapshot. -/
def twoDollars : Sources Float :=
  { silent with
    pair := fun _ => .ok ⟨.eur, .usd⟩
    fxHistory := fun _ _ => .ok ⟨[(.monday, 2.0)], List.pairwise_singleton _ _⟩
    fxRate := fun _ _ _ => .ok 2.0 }

/-- Ten euros on one day. -/
def tenEuros : DateSeries Float := ⟨[(.monday, 10.0)], List.pairwise_singleton _ _⟩

theorem convertPnl_twoDollars :
    (twoDollars.convertPnl .eur .usd .historicalSpot monday .monday tenEuros).outcome
        (.blank false) = .ok (tenEuros.scale (1.0 / 2.0)) ∧
      (twoDollars.convertPnl .eur .usd .snapshot monday .monday tenEuros).outcome
        (.blank false) = .ok (tenEuros.scale 2.0) ∧
      (twoDollars.convertPnl .eur .usd .historicalSpot monday .monday tenEuros).outcome
          (.blank false) ≠
        (twoDollars.convertPnl .eur .usd .snapshot monday .monday tenEuros).outcome
          (.blank false) := by
  obtain ⟨bySpot, bySnapshot, agree⟩ :=
    twoDollars.convertPnl_spot_eq_snapshot_iff (by decide : Currency.usd ≠ .eur) monday .monday
      tenEuros (.blank false) rfl rfl (by decide) (by decide) (by decide)
  exact ⟨bySpot, bySnapshot, fun same => absurd (agree.mp same) (by decide)⟩

/-- The modes do not agree in general: ten euros at two dollars each come to five by the spot rate
and to twenty by the snapshot rate. -/
theorem not_forall_convertPnl_spot_eq_snapshot :
    ¬ ∀ (s : Sources Float) (native output : Currency) (window : DateWindow) (on : Date)
      (rates pnl : DateSeries Float) (rate : Float) (j : Journal Float),
      output ≠ native → (s.conversionSeries native output window).outcome j = .ok rates →
      (s.snapshotRate native output on).outcome j = .ok rate →
      (∀ d ∈ pnl.dates, (rates.valueOn? d).isSome) → (∀ v ∈ rates.values, v = rate) →
      rate.isFinite → Quantity.isZero rate = false →
      (s.convertPnl native output .historicalSpot window on pnl).outcome j =
        (s.convertPnl native output .snapshot window on pnl).outcome j := by
  intro agree
  have same := agree twoDollars .eur .usd monday .monday _ tenEuros 2.0 (.blank false) (by decide)
    rfl rfl (by decide) (by decide) (by decide) (by decide)
  have value := congrArg (fun r => r.toOption.map fun t => t.values) same
  revert value
  decide

end Sources

end CurvePnl
