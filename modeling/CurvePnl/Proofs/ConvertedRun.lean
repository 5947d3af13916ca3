import CurvePnl.Proofs.ReplaySteps
import CurvePnl.Proofs.RunErrors

/-! # A run with and without its output currency

A run on an implied curve converts its profit and loss in the end. So the run with an output
currency and the run without one replay the same days and take the same returns, and the columns of
the one come from those of the other. Only the conversion itself can fail more.
-/

namespace CurvePnl

variable {α : Type} [Quantity α]

/-- `converted` has the key and the label of a column. Of its samples it has those for whose dates
there is a factor, times that factor. -/
structure Column.Multiplied (factor? : Date → Option α) (column converted : Column α) : Prop where
  key : converted.key = column.key
  label : converted.label = column.label
  samples : converted.series.samples = column.series.samples.filterMap fun a =>
    (factor? a.1).map fun factor => (a.1, a.2 * factor)

/-- The factors of spot rates: one unit of output currency in native currency, on the dates that
are sampled. -/
def DateSeries.inverseOn? (rates : DateSeries α) (d : Date) : Option α :=
  (rates.valueOn? d).map (Quantity.one / ·)

/-- The column with another series. -/
def Column.withSeries (column : Column α) (f : DateSeries α → DateSeries α) : Column α :=
  { column with series := f column.series }

theorem Column.multiplied_scale (column : Column α) (rate : α) :
    column.Multiplied (fun _ => some rate) (column.withSeries (·.scale rate)) where
  key := rfl
  label := rfl
  samples := by simp [Column.withSeries, DateSeries.scale, DateSeries.mapValues]

theorem Column.multiplied_multiplyCommon (column : Column α) (rates : DateSeries α) :
    column.Multiplied rates.inverseOn?
      (column.withSeries (·.multiplyCommon (rates.mapValues (Quantity.one / ·)))) where
  key := rfl
  label := rfl
  samples := by
    apply List.filterMap_congr
    intro a _
    rw [DateSeries.commonProduct?, DateSeries.valueOn?_mapValues]
    rfl

theorem DateSeries.reciprocal_of_zero {s : DateSeries α}
    (zero : ∃ v ∈ s.values, Quantity.isZero v = true) :
    ∃ d v, (d, v) ∈ s.samples ∧ Quantity.isZero v = true ∧
      s.reciprocal = .error (.zeroSample d) := by
  cases inverted : s.reciprocal with
  | error e =>
      obtain ⟨⟨d, v⟩, member, zero, rfl⟩ := reciprocal_of_error inverted
      exact ⟨d, v, member, zero, rfl⟩
  | ok factors =>
      obtain ⟨v, member, zero⟩ := zero
      obtain ⟨a, sampled, rfl⟩ := List.mem_map.mp member
      unfold reciprocal at inverted
      split at inverted
      · cases inverted
      next none =>
        exact absurd zero (by simpa using List.find?_eq_none.mp none a sampled)

namespace ImpliedPlan

variable {s : Sources α} {request : AttributionRequest} {curve : CurveName}
  {construction : ConstructionName} {on : Date} {cancelled : Bool} {p : ImpliedPlan α}

/-- The plan with another conversion. -/
def converting (p : ImpliedPlan α) (c : Conversion α) : ImpliedPlan α := { p with conversion := c }

/-- Nothing but the conversion depends on the output currency. -/
theorem Resolved.converting (resolved : p.Resolved s request curve construction on cancelled)
    {output : Option Currency} {c : Conversion α}
    (found : s.PnlConversion request.curveCurrency p.fetched on output request.mode c) :
    (p.converting c).Resolved s { request with outputCurrency := output } curve construction on
      cancelled where
  pair := resolved.pair
  sensitivities := resolved.sensitivities
  lead := resolved.lead
  conversion := found
  replay := resolved.replay
  entry := resolved.entry
  ascending := resolved.ascending
  reported := resolved.reported
  count := resolved.count

/-- Where nothing is converted, a conversion makes another column of each. -/
theorem TenorPnl.converting {tenor : Tenor} {sensitivity : α} {column : Column α}
    (pnl : p.TenorPnl s request construction tenor sensitivity column)
    (plain : p.conversion = .identity) (output : Option Currency) {c : Conversion α}
    {f : DateSeries α → DateSeries α} (converts : ∀ x, c.Converts x (f x)) :
    (p.converting c).TenorPnl s { request with outputCurrency := output } construction tenor
      sensitivity (column.withSeries f) := by
  obtain ⟨rates, moves, harvested, taken, unchanged, key, label⟩ := pnl
  rw [plain] at unchanged
  obtain ⟨key', label', series⟩ := column
  cases unchanged
  exact ⟨rates, moves, harvested, taken, converts _, key, label⟩

theorem exists_tenorPnl_identity {tenor : Tenor} {sensitivity : α} {column : Column α}
    (pnl : p.TenorPnl s request construction tenor sensitivity column) :
    ∃ plain, (p.converting .identity).TenorPnl s { request with outputCurrency := none }
      construction tenor sensitivity plain := by
  obtain ⟨rates, moves, harvested, taken, -⟩ := pnl
  exact ⟨⟨_, _, _⟩, rates, moves, harvested, taken, .identity, rfl, rfl⟩

end ImpliedPlan

namespace Sources

variable {s : Sources α} {request : AttributionRequest} {curve : CurveName}
  {construction : ConstructionName} {on : Date} {j : Journal α}

theorem run_implied_eq_ok (implied : request.curve = .implied curve construction)
    {context : ValuationContext} {tokens : Tokens} {a : Attribution α} :
    (s.run request context tokens).1 = .ok a ↔
      ∃ p : ImpliedPlan α,
        p.Resolved s request curve construction context.date (tokens.isCancelled context.token) ∧
        a.currency = request.outputCurrency.getD request.curveCurrency ∧
        List.Forall₂ (fun q column => p.TenorPnl s request construction q.1 q.2 column)
          (p.tenors.zip p.entry.vector) a.matrix.columns := by
  rw [run_fst_eq_ok, implied]
  exact s.outcome_attributeImplied_eq_ok

theorem run_unconverted_eq_ok (implied : request.curve = .implied curve construction)
    {context : ValuationContext} {tokens : Tokens} {u : Attribution α} :
    (s.run { request with outputCurrency := none } context tokens).1 = .ok u ↔
      ∃ p : ImpliedPlan α, p.Resolved s { request with outputCurrency := none } curve construction
          context.date (tokens.isCancelled context.token) ∧
        u.currency = request.curveCurrency ∧
        List.Forall₂ (fun q column => p.TenorPnl s { request with outputCurrency := none }
          construction q.1 q.2 column) (p.tenors.zip p.entry.vector) u.matrix.columns := by
  have same : ({ request with outputCurrency := none } : AttributionRequest).curve =
      .implied curve construction := implied
  exact run_implied_eq_ok same

theorem exists_run_unconverted (implied : request.curve = .implied curve construction)
    {context : ValuationContext} {tokens : Tokens} {a : Attribution α}
    (ok : (s.run request context tokens).1 = .ok a) :
    ∃ u, (s.run { request with outputCurrency := none } context tokens).1 = .ok u := by
  obtain ⟨p, resolved, -, worked⟩ := (run_implied_eq_ok implied).mp ok
  obtain ⟨columns, plain⟩ := Work.exists_forall₂_iff.mpr fun q member => by
    obtain ⟨column, pnl⟩ := Work.exists_forall₂_iff.mp ⟨_, worked⟩ q member
    exact ImpliedPlan.exists_tenorPnl_identity pnl
  exact ⟨⟨⟨columns⟩, _⟩, (run_unconverted_eq_ok implied).mpr
    ⟨p.converting .identity, resolved.converting .unasked, rfl, plain⟩⟩

/-- If the run without an output currency succeeds and a conversion is found that works for every
series, then the run that converts succeeds with each series converted. -/
theorem run_converted (implied : request.curve = .implied curve construction)
    {context : ValuationContext} {tokens : Tokens} {u : Attribution α}
    (ok : (s.run { request with outputCurrency := none } context tokens).1 = .ok u)
    {c : Conversion α} (found : ∀ fetched, request.window.fetched? = some fetched →
      s.PnlConversion request.curveCurrency fetched context.date request.outputCurrency
        request.mode c)
    {f : DateSeries α → DateSeries α} (converts : ∀ x, c.Converts x (f x)) :
    (s.run request context tokens).1 = .ok ⟨⟨u.matrix.columns.map (·.withSeries f)⟩,
      request.outputCurrency.getD request.curveCurrency⟩ := by
  obtain ⟨p, resolved, -, worked⟩ := (run_unconverted_eq_ok implied).mp ok
  have plain : p.conversion = .identity := by
    generalize unconverted : p.conversion = c'
    have conversion := resolved.conversion
    rw [unconverted] at conversion
    cases conversion
    rfl
  refine (run_implied_eq_ok implied).mpr
    ⟨p.converting c, resolved.converting (found _ resolved.lead), rfl, ?_⟩
  rw [List.forall₂_map_right_iff]
  exact worked.imp fun q column pnl => pnl.converting plain request.outputCurrency converts

theorem outcome_impliedInputs_of_no_lead (leadless : request.window.fetched? = none) :
    (s.impliedInputs request on).outcome j = .error .aborted := by
  unfold impliedInputs
  rw [leadless]
  rfl

/-- A conversion makes no run abort: what comes before the replay fails in other ways, and the
replay is the same without it. -/
theorem outcome_of_aborted
    (aborted : (s.attributeImplied request curve construction on).outcome j = .error .aborted) :
    (s.attributeImplied { request with outputCurrency := none } curve construction on).outcome j =
      .error .aborted := by
  cases lead : request.window.fetched? with
  | none => exact Work.outcome_bind_of_error (outcome_impliedInputs_of_no_lead lead)
  | some fetched =>
      rw [attributeImplied_eq_columns] at aborted ⊢
      rcases ends_impliedInputs lead j with ⟨⟨bundle, conversion⟩, found, resolved⟩ | ⟨e, failed, -⟩
      · obtain ⟨pair, sensitivities, -⟩ := s.outcome_impliedInputs_eq_ok.mp found
        have plain : (s.impliedInputs { request with outputCurrency := none } on).outcome j =
            .ok (bundle, .identity) :=
          s.outcome_impliedInputs_eq_ok.mpr ⟨pair, sensitivities, fetched, lead, .unasked⟩
        have flags : ((s.impliedInputs request on).journal j).cancelled =
            ((s.impliedInputs { request with outputCurrency := none } on).journal j).cancelled := by
          rw [s.keepsFlag_impliedInputs, s.keepsFlag_impliedInputs]
        obtain ⟨same, -⟩ := flagDetermined_replay { construction } request.window _ _ flags
        rw [Work.outcome_bind_of_ok found] at aborted
        rw [Work.outcome_bind_of_ok plain]
        cases ran : (s.replay { construction } request.window).outcome
            ((s.impliedInputs request on).journal j) with
        | error e =>
            rw [Work.outcome_bind_of_error ran] at aborted
            cases aborted
            exact Work.outcome_bind_of_error (same.symm.trans ran)
        | ok history =>
            rw [Work.outcome_bind_of_ok ran] at aborted
            refine absurd aborted
              (Work.Ends.not_aborted (P := s.RunError request on) (Q := fun _ => True) ?_ _)
            exact .bind (.note _) fun _ _ => .bind (ends_matchCurve bundle curve .missing)
              fun matched _ => .bind (.checkCount fun _ => .count) fun _ _ =>
              .bind (.mapM fun q _ => ends_impliedColumn lead resolved curve q.1.1 q.1.2 q.2)
              fun _ _ => .pure trivial
      · rw [Work.outcome_bind_of_error failed] at aborted
        cases aborted

theorem outcome_impliedColumn_of_zero {tenor : Tenor} {rates moves spot : DateSeries α}
    {sensitivity : α} {e : ValueError}
    (taken : s.returns (rates.trimTo request.window.first) = .ok moves)
    (zero : spot.reciprocal = .error e) :
    (s.impliedColumn request curve (.historicalSpot spot) tenor rates sensitivity).outcome j =
      .error (.failed (.ofValueError e)) := by
  have first (j : Journal α) :
      (s.convertedReturns (rates.trimTo request.window.first) none).outcome j = .ok moves :=
    s.outcome_convertedReturns_eq_ok.mpr ⟨_, .native, taken⟩
  have refused (pnl : DateSeries α) (j : Journal α) :
      ((.historicalSpot spot : Conversion α).apply pnl).outcome j =
        .error (.failed (.ofValueError e)) := by
    rw [Conversion.apply, zero]
    exact (Work.outcome_bind_of_ok (Work.outcome_forM_note _ _ _)).trans rfl
  unfold impliedColumn
  rw [Work.outcome_bind_of_ok (first j)]
  exact Work.outcome_bind_of_error (refused _ _)

theorem run_converted_of_zero (implied : request.curve = .implied curve construction)
    {context : ValuationContext} {tokens : Tokens} {u : Attribution α}
    (ok : (s.run { request with outputCurrency := none } context tokens).1 = .ok u)
    (nonempty : u.matrix.columns ≠ []) {spot : DateSeries α} (found : ∀ fetched,
      request.window.fetched? = some fetched → s.PnlConversion request.curveCurrency fetched
        context.date request.outputCurrency request.mode (.historicalSpot spot))
    {e : ValueError} (zero : spot.reciprocal = .error e) :
    (s.run request context tokens).1 = .error (.failed (.ofValueError e)) := by
  obtain ⟨p, resolved, -, worked⟩ := (run_unconverted_eq_ok implied).mp ok
  have converting : (p.converting (.historicalSpot spot)).Resolved s request curve construction
      context.date (tokens.isCancelled context.token) :=
    resolved.converting (found _ resolved.lead)
  obtain ⟨prepared, ready, pairs⟩ := exists_preparedTenors
    (j := .blank (tokens.isCancelled context.token)) converting
  obtain ⟨q, rest, rfl⟩ : ∃ q rest, prepared = q :: rest := by
    refine List.exists_cons_of_ne_nil ?_
    rintro rfl
    have none : p.tenors.zip p.entry.vector = [] := pairs.pairs.symm
    rw [none, List.forall₂_nil_left_iff] at worked
    exact nonempty worked
  -- The first tenor has its returns in both runs, but here they cannot be converted.
  have member : (q.1.1, q.2) ∈ p.tenors.zip p.entry.vector := by
    rw [show p.tenors.zip p.entry.vector = _ from pairs.pairs.symm]
    exact List.mem_cons_self
  obtain ⟨column, rates, moves, harvested, taken, -⟩ :=
    Work.exists_forall₂_iff.mp ⟨_, worked⟩ _ member
  have same : rates = q.1.2 :=
    DateSeries.ext_samples (harvested.trans (pairs.harvested q List.mem_cons_self).symm)
  subst same
  have taken' : s.returns (q.1.2.trimTo request.window.first) = .ok moves := taken
  rw [run_fst_eq, implied]
  dsimp only
  rw [attributeImplied_eq, Work.outcome_bind_of_ok ready]
  refine Work.outcome_bind_of_error ?_
  rw [List.mapM_cons]
  exact Work.outcome_bind_of_error (outcome_impliedColumn_of_zero taken' zero)

/-- A run on an implied curve that is asked for another currency, compared with the run that is
asked for none. If that one fails then so does this one. If it succeeds, a snapshot rate multiplies
every value. Spot rates without a zero divide the values of the dates that they sample, and the
other dates are dropped. Spot rates with a zero fail a run that has any column. -/
theorem run_in_output_currency (s : Sources α) {request : AttributionRequest} {curve : CurveName}
    {construction : ConstructionName} (implied : request.curve = .implied curve construction)
    {output : Currency} (asked : request.outputCurrency = some output)
    (different : output ≠ request.curveCurrency) (context : ValuationContext) (tokens : Tokens) :
    (∀ e, (s.run { request with outputCurrency := none } context tokens).1 = .error e →
      ∃ e', (s.run request context tokens).1 = .error e' ∧ (e' = .aborted → e = .aborted)) ∧
    ∀ u, (s.run { request with outputCurrency := none } context tokens).1 = .ok u →
      (∀ rate, request.mode = .snapshot →
        s.fxRate request.curveCurrency output context.date = .ok rate →
        ∃ a, (s.run request context tokens).1 = .ok a ∧ a.currency = output ∧
          List.Forall₂ (Column.Multiplied fun _ => some rate) u.matrix.columns
            a.matrix.columns) ∧
      ∀ fetched rates, request.mode = .historicalSpot →
        request.window.fetched? = some fetched →
        s.ConversionRates request.curveCurrency output fetched rates →
        ((∀ v ∈ rates.values, Quantity.isZero v = false) →
          ∃ a, (s.run request context tokens).1 = .ok a ∧ a.currency = output ∧
            List.Forall₂ (Column.Multiplied rates.inverseOn?) u.matrix.columns
              a.matrix.columns) ∧
        ((∃ v ∈ rates.values, Quantity.isZero v = true) → u.matrix.columns ≠ [] →
          ∃ d v, (d, v) ∈ rates.samples ∧ Quantity.isZero v = true ∧
            (s.run request context tokens).1 = .error (.failed (.value (.zeroSample d)))) := by
  have currency : request.outputCurrency.getD request.curveCurrency = output := by
    rw [asked, Option.getD_some]
  refine ⟨?_, ?_⟩
  · intro e failed
    cases ended : (s.run request context tokens).1 with
    | ok a =>
        obtain ⟨u, ok⟩ := exists_run_unconverted implied ended
        rw [failed] at ok
        cases ok
    | error e' =>
        refine ⟨e', rfl, ?_⟩
        rintro rfl
        rw [run_fst_eq, implied] at ended failed
        exact Except.error.inj (failed.symm.trans (outcome_of_aborted ended))
  · intro u ok
    refine ⟨?_, ?_⟩
    · intro rate snapshot answered
      have found : ∀ fetched, request.window.fetched? = some fetched →
          s.PnlConversion request.curveCurrency fetched context.date request.outputCurrency
            request.mode (.snapshot rate) := by
        intro fetched _
        rw [asked, snapshot]
        exact .snapshot different answered
      refine ⟨_, run_converted implied ok found (fun _ => .snapshot), currency, ?_⟩
      rw [List.forall₂_map_right_iff]
      exact List.forall₂_same.mpr fun column _ => column.multiplied_scale rate
    · intro fetched rates spot lead sampled
      have found : ∀ fetched, request.window.fetched? = some fetched →
          s.PnlConversion request.curveCurrency fetched context.date request.outputCurrency
            request.mode (.historicalSpot rates) := by
        intro fetched' lead'
        rw [lead] at lead'
        cases lead'
        rw [asked, spot]
        exact .spot different sampled
      refine ⟨?_, ?_⟩
      · intro nonzero
        have inverted := DateSeries.reciprocal_of_nonzero nonzero
        refine ⟨_, run_converted implied ok found (fun _ => .historicalSpot inverted), currency, ?_⟩
        rw [List.forall₂_map_right_iff]
        exact List.forall₂_same.mpr fun column _ => column.multiplied_multiplyCommon rates
      · intro zero nonempty
        obtain ⟨d, v, member, zero, failed⟩ := DateSeries.reciprocal_of_zero zero
        exact ⟨d, v, member, zero, run_converted_of_zero implied ok nonempty found failed⟩

/-- The sparse curve, with spot rates that are sampled on Monday only. -/
def mondayRates : Sources Float :=
  { sparseDeposits with
    fxHistory := fun _ _ => .ok ⟨[(.monday, 4.0)], List.pairwise_singleton _ _⟩ }

theorem resolved_mondayRates : (sparsePlan.converting .identity).Resolved mondayRates
    { spotMonday with outputCurrency := none } "EUR-OIS" "OIS" .monday false where
  pair := ⟨_, rfl⟩
  sensitivities := rfl
  lead := by decide
  conversion := .unasked
  replay := ⟨by decide, rfl, fun d _ _ => cancels_sparseCurve "OIS" d,
    fun d _ => ascends_sparseCurve "OIS" d⟩
  entry := rfl
  ascending := by decide
  reported := reported_sparseCurve "OIS"
  count := rfl

theorem run_mondayRates_in_dollars :
    spotMonday.curve = .implied "EUR-OIS" "OIS" ∧ spotMonday.outputCurrency = some .usd ∧
      Currency.usd ≠ spotMonday.curveCurrency ∧
      ∃ a, (mondayRates.run spotMonday ⟨.monday, ⟨0⟩⟩ .none).1 = .ok a ∧
        a.matrix.columns.map (·.series.samples) = [[], [(.monday, 2.5)]] := by
  have implied : spotMonday.curve = .implied "EUR-OIS" "OIS" := rfl
  have plain : List.Forall₂ (fun q column => (sparsePlan.converting .identity).TenorPnl mondayRates
      { spotMonday with outputCurrency := none } "OIS" q.1 q.2 column)
      [(⟨.months, 3⟩, 10.0), (⟨.years, 1⟩, 20.0)]
      [⟨⟨.months, 3⟩, Tenor.text ⟨.months, 3⟩, DateSeries.empty.scale 10.0⟩,
        ⟨⟨.years, 1⟩, Tenor.text ⟨.years, 1⟩,
          (⟨[(.monday, 0.5)], by decide⟩ : DateSeries Float).scale 20.0⟩] := by
    refine .cons ?_ (.cons ?_ .nil)
    · exact ⟨⟨[(.friday, 1.0)], by decide⟩, .empty, rfl, rfl, .identity, rfl, rfl⟩
    · exact ⟨⟨[(.friday, 2.0), (.monday, 2.5)], by decide⟩, ⟨[(.monday, 0.5)], by decide⟩, rfl,
        congrArg Except.ok (DateSeries.ext_samples (by decide)), .identity, rfl, rfl⟩
  have ok : (mondayRates.run { spotMonday with outputCurrency := none } ⟨.monday, ⟨0⟩⟩ .none).1 =
      .ok ⟨⟨_⟩, .eur⟩ := (run_unconverted_eq_ok implied).mpr ⟨_, resolved_mondayRates, rfl, plain⟩
  have runs := run_in_output_currency mondayRates implied (by rfl : _ = some Currency.usd)
    (by decide) ⟨.monday, ⟨0⟩⟩ .none
  obtain ⟨a, ran, -, columns⟩ := ((runs.2 _ ok).2 weekToMonday
    ⟨[(.monday, 4.0)], List.pairwise_singleton _ _⟩ rfl (by decide)
    ⟨⟨.eur, .usd⟩, _, rfl, rfl, rfl⟩).1 (by decide)
  refine ⟨rfl, rfl, by decide, a, ran, ?_⟩
  generalize a.matrix.columns = converted at columns
  cases columns with
  | cons first rest =>
      cases rest with
      | cons second rest =>
          cases rest
          simp only [List.map_cons, List.map_nil, first.samples, second.samples]
          decide

end Sources

end CurvePnl
