import CurvePnl.Proofs.Blind
import CurvePnl.Proofs.Replay
import CurvePnl.Series.Returns

/-! # Runs on implied curves

A run on an implied curve learns its tenors from the replay: they are those that some day of the
window reports, in ascending order. The main statement says exactly when such a run succeeds, and
that every tenor is paired with the sensitivity of its place.
-/

namespace CurvePnl

variable {α : Type} [Quantity α]

/-- What a run on an implied curve resolves before it looks at any tenor. -/
structure ImpliedPlan (α : Type) where
  bundle : SensitivityBundle α
  /-- The entry of the bundle that counts. -/
  entry : SensitivityEntry α
  fetched : DateWindow
  conversion : Conversion α
  tenors : List Tenor

namespace ImpliedPlan

/-- The sources answer with this plan, if the run begins with this cancellation flag. -/
structure Resolved (p : ImpliedPlan α) (s : Sources α) (request : AttributionRequest)
    (curve : CurveName) (construction : ConstructionName) (on : Date) (cancelled : Bool) :
    Prop where
  pair : ∃ pair, s.pair request.position.pair = .ok pair
  sensitivities : s.sensitivities request.position on = .ok p.bundle
  lead : request.window.fetched? = some p.fetched
  conversion : s.PnlConversion request.curveCurrency p.fetched on request.outputCurrency
    request.mode p.conversion
  replay : s.Completes construction p.fetched cancelled
  entry : (p.bundle.forCurve curve).head? = some p.entry
  ascending : Ascending p.tenors
  reported : ∀ tenor, tenor ∈ p.tenors ↔ s.Reported construction p.fetched.days tenor
  count : p.entry.vector.length = p.tenors.length

/-- The returns of a tenor can be taken, and its profit and loss can be converted. -/
def TenorReady (p : ImpliedPlan α) (s : Sources α) (request : AttributionRequest)
    (construction : ConstructionName) (tenor : Tenor) (sensitivity : α) : Prop :=
  ∃ (rates moves converted : DateSeries α),
    rates.samples = s.harvest construction p.fetched.days tenor ∧
    s.returns (rates.trimTo request.window.first) = .ok moves ∧
    p.conversion.Converts (moves.scale sensitivity) converted

/-- `column` is the profit and loss of a tenor with a sensitivity. -/
def TenorPnl (p : ImpliedPlan α) (s : Sources α) (request : AttributionRequest)
    (construction : ConstructionName) (tenor : Tenor) (sensitivity : α) (column : Column α) :
    Prop :=
  ∃ (rates moves : DateSeries α), rates.samples = s.harvest construction p.fetched.days tenor ∧
    s.returns (rates.trimTo request.window.first) = .ok moves ∧
    p.conversion.Converts (moves.scale sensitivity) column.series ∧
    column.key = tenor ∧ column.label = tenor.text

theorem exists_tenorPnl_iff {p : ImpliedPlan α} {s : Sources α} {request : AttributionRequest}
    {construction : ConstructionName} {tenor : Tenor} {sensitivity : α} :
    (∃ column, p.TenorPnl s request construction tenor sensitivity column) ↔
      p.TenorReady s request construction tenor sensitivity := by
  constructor
  · rintro ⟨column, rates, moves, harvested, taken, converts, -⟩
    exact ⟨rates, moves, column.series, harvested, taken, converts⟩
  · rintro ⟨rates, moves, converted, harvested, taken, converts⟩
    exact ⟨⟨tenor, tenor.text, converted⟩, rates, moves, harvested, taken, converts, rfl, rfl⟩

theorem keys_eq_tenors {p : ImpliedPlan α} {s : Sources α} {request : AttributionRequest}
    {construction : ConstructionName} (count : p.entry.vector.length = p.tenors.length)
    {matrix : PnlMatrix α}
    (worked : List.Forall₂ (fun q column => p.TenorPnl s request construction q.1 q.2 column)
      (p.tenors.zip p.entry.vector) matrix.columns) : matrix.keys = p.tenors := by
  have keyed : List.Forall₂ (fun q column => q.1 = column.key)
      (p.tenors.zip p.entry.vector) matrix.columns := by
    refine worked.imp ?_
    rintro q column ⟨rates, moves, harvested, taken, converts, key, label⟩
    exact key.symm
  rw [PnlMatrix.keys_eq_map keyed, List.map_fst_zip (Nat.le_of_eq count.symm)]

/-- Each tenor of the plan stands with the rates that the days report of it, and with its
sensitivity. -/
structure Prepared (p : ImpliedPlan α) (s : Sources α) (construction : ConstructionName)
    (prepared : List ((Tenor × DateSeries α) × α)) : Prop where
  pairs : prepared.map (fun q => (q.1.1, q.2)) = p.tenors.zip p.entry.vector
  harvested : ∀ q ∈ prepared, q.1.2.samples = s.harvest construction p.fetched.days q.1.1

omit [Quantity α] in
theorem prepared_of_replayed {p : ImpliedPlan α} {s : Sources α} {construction : ConstructionName}
    {before after : Journal α} {history : ImpliedHistory α}
    (replayed : s.Replayed { construction } before p.fetched.days history after)
    (tenors : p.tenors = history.buckets.sortedSeries.map (·.1)) :
    p.Prepared s construction (history.buckets.sortedSeries.zip p.entry.vector) where
  pairs := by
    rw [tenors, List.zip_map_left]
    rfl
  harvested := by
    intro q member
    have bucket := (BucketCollection.mem_sortedSeries replayed.sound).mp (List.of_mem_zip member).1
    exact (replayed.get?_eq_some_iff.mp bucket).2

end ImpliedPlan

namespace Sources

variable (s : Sources α)

theorem keepsFlag_impliedInputs (request : AttributionRequest) (on : Date) :
    (s.impliedInputs request on).KeepsFlag :=
  (s.blind_impliedInputs request on).keepsFlag

theorem outcome_impliedInputs_eq_ok {request : AttributionRequest} {on : Date} {weeks : Nat}
    {bundle : SensitivityBundle α} {conversion : Conversion α} {j : Journal α} :
    (s.impliedInputs request on weeks).outcome j = .ok (bundle, conversion) ↔
      (∃ pair, s.pair request.position.pair = .ok pair) ∧
        s.sensitivities request.position on = .ok bundle ∧
        ∃ fetched, request.window.fetched? weeks = some fetched ∧
          s.PnlConversion request.curveCurrency fetched on request.outputCurrency request.mode
            conversion := by
  simp only [impliedInputs, askPair, askSensitivities, Work.outcome_bind_eq_ok, Work.outcome_ask,
    Work.outcome_inRange_eq_ok, Except.ok.injEq, exists_eq_left']
  constructor
  · rintro ⟨fetched, lead, c, attempted, answered⟩
    split at answered
    next pair b c paired bundled =>
      cases answered
      have converted := s.outcome_pnlConversion_eq_ok.mp (Work.outcome_attempt_eq_ok.mp attempted)
      exact ⟨⟨pair, paired⟩, bundled, fetched, lead, converted⟩
    · cases answered
  · rintro ⟨⟨pair, paired⟩, bundled, fetched, lead, converted⟩
    refine ⟨fetched, lead, .ok conversion, ?_, ?_⟩
    · exact Work.outcome_attempt_eq_ok.mpr (s.outcome_pnlConversion_eq_ok.mpr converted)
    · rw [paired, bundled]
      rfl

theorem outcome_impliedColumn_eq_ok {p : ImpliedPlan α} {request : AttributionRequest}
    {curve : CurveName} {construction : ConstructionName} {tenor : Tenor} {rates : DateSeries α}
    (harvested : rates.samples = s.harvest construction p.fetched.days tenor) {sensitivity : α}
    {column : Column α} {j : Journal α} :
    (s.impliedColumn request curve p.conversion tenor rates sensitivity).outcome j = .ok column ↔
      p.TenorPnl s request construction tenor sensitivity column := by
  simp only [impliedColumn, Work.outcome_bind_eq_ok, outcome_convertedReturns_eq_ok,
    ConvertedLevels.none_iff, Conversion.outcome_apply_eq_ok, Work.outcome_note,
    Work.outcome_pure, Except.ok.injEq, exists_eq_left]
  constructor
  · rintro ⟨moves, taken, pnl, converts, -, -, rfl⟩
    exact ⟨rates, moves, harvested, taken, converts, rfl, rfl⟩
  · rintro ⟨rates', moves, harvested', taken, converts, key, label⟩
    have same : rates' = rates := DateSeries.ext_samples (harvested'.trans harvested.symm)
    subst same
    obtain ⟨_, _, series⟩ := column
    simp only at key label
    rw [key, label]
    exact ⟨moves, taken, series, converts, (), trivial, rfl⟩

/-- What a run on an implied curve does before it takes any returns. -/
def preparedTenors (request : AttributionRequest) (curve : CurveName)
    (construction : ConstructionName) (on : Date) (weeks : Nat := DateWindow.leadWeeks) :
    Work α (List ((Tenor × DateSeries α) × α) × Conversion α) := do
  let (bundle, conversion) ← s.impliedInputs request on weeks
  let history ← s.replay { construction } request.window weeks
  Work.note (.historyReplayed curve history.builtDays history.skippedDays.length)
  let matched ← bundle.matchCurve curve
  let buckets := history.buckets.sortedSeries
  Work.checkCount curve buckets.length matched.vector.length
  return (buckets.zip matched.vector, conversion)

theorem attributeImplied_eq (request : AttributionRequest) (curve : CurveName)
    (construction : ConstructionName) (on : Date) (weeks : Nat := DateWindow.leadWeeks) :
    s.attributeImplied request curve construction on weeks = (do
      let (prepared, conversion) ← s.preparedTenors request curve construction on weeks
      let columns ← prepared.mapM fun ((tenor, rates), sensitivity) =>
        s.impliedColumn request curve conversion tenor rates sensitivity
      return ⟨⟨columns⟩, request.outputCurrency.getD request.curveCurrency⟩) := by
  simp only [attributeImplied_eq_columns, preparedTenors, bind_assoc, pure_bind]

variable {s} {request : AttributionRequest} {curve : CurveName} {construction : ConstructionName}
  {on : Date} {j : Journal α}

theorem resolved_of_preparedTenors {prepared : List ((Tenor × DateSeries α) × α)}
    {conversion : Conversion α}
    (ok : (s.preparedTenors request curve construction on).outcome j =
      .ok (prepared, conversion)) :
    ∃ p : ImpliedPlan α, p.Resolved s request curve construction on j.cancelled ∧
      p.conversion = conversion ∧ p.Prepared s construction prepared := by
  obtain ⟨⟨bundle, conversion⟩, inputs, ok⟩ := Work.outcome_bind_eq_ok.mp ok
  obtain ⟨pair, sensitivities, fetched, lead, converted⟩ :=
    s.outcome_impliedInputs_eq_ok.mp inputs
  obtain ⟨history, ran, ok⟩ := Work.outcome_bind_eq_ok.mp ok
  obtain ⟨fetched', lead', completes, replayed⟩ := completes_of_replay ran
  rw [lead] at lead'
  cases lead'
  -- The inputs leave the flag alone, so the replay began with that of the run.
  rw [s.keepsFlag_impliedInputs] at completes
  obtain ⟨_, -, ok⟩ := Work.outcome_bind_eq_ok.mp ok
  obtain ⟨matched, found, ok⟩ := Work.outcome_bind_eq_ok.mp ok
  obtain ⟨entry, first, rfl⟩ := SensitivityBundle.matched?_eq_some_iff.mp
    (SensitivityBundle.outcome_matchCurve_eq_ok.mp found)
  obtain ⟨_, count, ok⟩ := Work.outcome_bind_eq_ok.mp ok
  cases ok
  have count := Work.outcome_checkCount_eq_ok.mp count
  exact ⟨⟨bundle, entry, fetched, conversion, history.buckets.sortedSeries.map (·.1)⟩,
    ⟨pair, sensitivities, lead, converted, completes, first, replayed.ascending_tenors,
      fun _ => replayed.mem_tenors, by simpa using count.symm⟩, rfl,
    ImpliedPlan.prepared_of_replayed replayed rfl⟩

omit [Quantity α] in
/-- A replay that completes has one bucket per reported tenor. -/
theorem exists_history {fetched : DateWindow} {tenors : List Tenor}
    (lead : request.window.fetched? = some fetched)
    (completes : s.Completes construction fetched j.cancelled) (ascending : Ascending tenors)
    (reported : ∀ tenor, tenor ∈ tenors ↔ s.Reported construction fetched.days tenor) :
    ∃ history, (s.replay { construction } request.window).outcome j = .ok history ∧
      s.Replayed { construction } j fetched.days history
        ((s.replay { construction } request.window).journal j) ∧
      tenors = history.buckets.sortedSeries.map (·.1) := by
  obtain ⟨history, ran⟩ := Completes.exists_replay { construction } lead completes
  have replayed := replayed_of_replay lead ran
  -- Of ascending lists only one has the reported tenors: that of the sorted buckets.
  exact ⟨history, ran, replayed, ascending.eq_of_mem_iff replayed.ascending_tenors fun t => by
    rw [reported, replayed.mem_tenors]⟩

theorem exists_preparedTenors {p : ImpliedPlan α}
    (resolved : p.Resolved s request curve construction on j.cancelled) :
    ∃ prepared, (s.preparedTenors request curve construction on).outcome j =
      .ok (prepared, p.conversion) ∧ p.Prepared s construction prepared := by
  have inputs := (s.outcome_impliedInputs_eq_ok (j := j)).mpr
    ⟨resolved.pair, resolved.sensitivities, p.fetched, resolved.lead, resolved.conversion⟩
  have completes := resolved.replay
  rw [← s.keepsFlag_impliedInputs request on j] at completes
  obtain ⟨history, ran, replayed, tenors⟩ :=
    exists_history resolved.lead completes resolved.ascending resolved.reported
  have count := resolved.count
  rw [tenors, List.length_map] at count
  refine ⟨_, ?_, ImpliedPlan.prepared_of_replayed replayed tenors⟩
  apply Work.outcome_bind_ok inputs
  apply Work.outcome_bind_ok ran
  apply Work.outcome_bind_ok (Work.outcome_note _ _)
  apply Work.outcome_bind_ok (SensitivityBundle.outcome_matchCurve_eq_ok.mpr
    (SensitivityBundle.matched?_eq_some_iff.mpr ⟨p.entry, resolved.entry, rfl⟩))
  apply Work.outcome_bind_ok (Work.outcome_checkCount_eq_ok.mpr count.symm)
  exact Work.outcome_pure _ _

theorem outcome_impliedColumns_eq_ok {p : ImpliedPlan α}
    {prepared : List ((Tenor × DateSeries α) × α)} (h : p.Prepared s construction prepared)
    {columns : List (Column α)} :
    (prepared.mapM fun ((tenor, rates), sensitivity) =>
        s.impliedColumn request curve p.conversion tenor rates sensitivity).outcome j =
      .ok columns ↔
      List.Forall₂ (fun q column => p.TenorPnl s request construction q.1 q.2 column)
        (p.tenors.zip p.entry.vector) columns := by
  rw [← h.pairs, List.forall₂_map_left_iff]
  apply Work.outcome_mapM_eq_ok
  intro q member column j
  exact s.outcome_impliedColumn_eq_ok (h.harvested q member)

variable (s)

theorem outcome_attributeImplied_eq_ok {request : AttributionRequest} {curve : CurveName}
    {construction : ConstructionName} {on : Date} {a : Attribution α} {j : Journal α} :
    (s.attributeImplied request curve construction on).outcome j = .ok a ↔
      ∃ p : ImpliedPlan α, p.Resolved s request curve construction on j.cancelled ∧
        a.currency = request.outputCurrency.getD request.curveCurrency ∧
        List.Forall₂ (fun q column => p.TenorPnl s request construction q.1 q.2 column)
          (p.tenors.zip p.entry.vector) a.matrix.columns := by
  rw [attributeImplied_eq]
  constructor
  · intro h
    obtain ⟨⟨prepared, conversion⟩, ready, h⟩ := Work.outcome_bind_eq_ok.mp h
    obtain ⟨p, resolved, rfl, pairs⟩ := resolved_of_preparedTenors ready
    obtain ⟨columns, worked, h⟩ := Work.outcome_bind_eq_ok.mp h
    cases h
    exact ⟨p, resolved, rfl, (outcome_impliedColumns_eq_ok pairs).mp worked⟩
  · rintro ⟨p, resolved, currency, worked⟩
    obtain ⟨prepared, ready, pairs⟩ := exists_preparedTenors resolved
    apply Work.outcome_bind_ok ready
    apply Work.outcome_bind_ok ((outcome_impliedColumns_eq_ok pairs).mpr worked)
    rw [Work.outcome_pure, ← currency]

/-- A run on an implied curve succeeds exactly if its inputs resolve, its replay completes and every
tenor is ready. It then has one column per tenor that a day of the fetched window reports, in
ascending order, with the sensitivity of that place. -/
theorem run_implied_succeeds_iff {request : AttributionRequest} {curve : CurveName}
    {construction : ConstructionName} (implied : request.curve = .implied curve construction)
    (context : ValuationContext) (tokens : Tokens) :
    ((∃ a, (s.run request context tokens).1 = .ok a) ↔
      ∃ p : ImpliedPlan α,
        p.Resolved s request curve construction context.date (tokens.isCancelled context.token) ∧
        ∀ (i : Nat) tenor sensitivity, p.tenors[i]? = some tenor →
          p.entry.vector[i]? = some sensitivity →
          p.TenorReady s request construction tenor sensitivity) ∧
    ∀ a, (s.run request context tokens).1 = .ok a ↔
      ∃ p : ImpliedPlan α,
        p.Resolved s request curve construction context.date (tokens.isCancelled context.token) ∧
        a.currency = request.outputCurrency.getD request.curveCurrency ∧
        a.matrix.keys = p.tenors ∧
        ∀ (i : Nat) tenor sensitivity, p.tenors[i]? = some tenor →
          p.entry.vector[i]? = some sensitivity →
          ∃ column, a.matrix.columns[i]? = some column ∧
            p.TenorPnl s request construction tenor sensitivity column := by
  have begun (a : Attribution α) : (s.run request context tokens).1 = .ok a ↔
      (s.attributeImplied request curve construction context.date).outcome
        (.blank (tokens.isCancelled context.token)) = .ok a := by
    rw [run_fst_eq_ok, implied]
  have yields (a : Attribution α) := (begun a).trans s.outcome_attributeImplied_eq_ok
  refine ⟨⟨?_, ?_⟩, ?_⟩
  · rintro ⟨a, ok⟩
    obtain ⟨p, resolved, -, worked⟩ := (yields a).mp ok
    refine ⟨p, resolved, ?_⟩
    intro i tenor sensitivity here place
    obtain ⟨column, -, pnl⟩ :=
      ((Work.forall₂_zip_iff resolved.count.symm).mp worked).2 i tenor sensitivity here place
    exact ImpliedPlan.exists_tenorPnl_iff.mp ⟨column, pnl⟩
  · rintro ⟨p, resolved, ready⟩
    obtain ⟨columns, worked⟩ := Work.exists_forall₂_iff.mpr fun q member => by
      obtain ⟨i, here⟩ := List.mem_iff_getElem?.mp member
      obtain ⟨tenor, sensitivity⟩ := List.getElem?_zip_eq_some.mp here
      exact ImpliedPlan.exists_tenorPnl_iff.mpr (ready i q.1 q.2 tenor sensitivity)
    exact ⟨⟨⟨columns⟩, _⟩, (yields _).mpr ⟨p, resolved, rfl, worked⟩⟩
  · intro a
    rw [yields]
    refine exists_congr fun p => and_congr_right fun resolved => and_congr_right fun _ => ?_
    constructor
    · intro worked
      exact ⟨ImpliedPlan.keys_eq_tenors resolved.count worked,
        ((Work.forall₂_zip_iff resolved.count.symm).mp worked).2⟩
    · rintro ⟨keys, all⟩
      refine (Work.forall₂_zip_iff resolved.count.symm).mpr ⟨?_, all⟩
      rw [← keys, PnlMatrix.keys, List.length_map]

/-- The sparse curve with euro sensitivities to both of its tenors. One euro is two dollars. -/
def sparseDeposits : Sources Float :=
  { sparseCurve with
    pair := fun _ => .ok ⟨.eur, .usd⟩
    sensitivities := fun _ _ => .ok ⟨[⟨"EUR-OIS", .eur, [10.0, 20.0]⟩]⟩
    fxRate := fun _ _ _ => .ok 2.0
    returns := fun x => .ok x.absoluteReturns }

def impliedMonday : AttributionRequest :=
  { position := ⟨"FXF-1", .eur, .usd⟩
    curve := .implied "EUR-OIS" "OIS"
    curveCurrency := .eur
    window := monday
    outputCurrency := some .usd
    mode := .snapshot }

def spotMonday : AttributionRequest := { impliedMonday with mode := .historicalSpot }

theorem mem_tenors_sparseCurve {construction : ConstructionName} {d : Date}
    {curve : ImpliedCurve Float} {tenor : Tenor}
    (built : (sparseCurve.impliedCurve construction d).curve = .ok curve)
    (member : tenor ∈ curve.tenors) : tenor ∈ [⟨.months, 3⟩, ⟨.years, 1⟩] := by
  simp only [sparseCurve] at built
  split at built
  · cases built
    exact member
  · split at built
    · cases built
      exact List.mem_cons_of_mem _ member
    · cases built

theorem reported_sparseCurve (construction : ConstructionName) (tenor : Tenor) :
    tenor ∈ [⟨.months, 3⟩, ⟨.years, 1⟩] ↔
      sparseCurve.Reported construction weekToMonday.days tenor := by
  constructor
  · intro member
    refine ⟨.friday, DateWindow.mem_days.mpr (by decide), _, rfl, member⟩
  · rintro ⟨d, -, curve, built, member⟩
    exact mem_tenors_sparseCurve built member

def sparsePlan : ImpliedPlan Float :=
  { bundle := ⟨[⟨"EUR-OIS", .eur, [10.0, 20.0]⟩]⟩
    entry := ⟨"EUR-OIS", .eur, [10.0, 20.0]⟩
    fetched := weekToMonday
    conversion := .snapshot 2.0
    tenors := [⟨.months, 3⟩, ⟨.years, 1⟩] }

theorem resolved_sparsePlan :
    sparsePlan.Resolved sparseDeposits impliedMonday "EUR-OIS" "OIS" .monday false where
  pair := ⟨_, rfl⟩
  sensitivities := rfl
  lead := by decide
  conversion := .snapshot (by decide) rfl
  replay := ⟨by decide, rfl, fun d _ _ => cancels_sparseCurve "OIS" d,
    fun d _ => ascends_sparseCurve "OIS" d⟩
  entry := rfl
  ascending := by decide
  reported := reported_sparseCurve "OIS"
  count := rfl

theorem run_implied_sparseDeposits :
    impliedMonday.curve = .implied "EUR-OIS" "OIS" ∧
      (sparseDeposits.run impliedMonday ⟨.monday, ⟨0⟩⟩ .none).1 =
        .ok ⟨⟨[⟨⟨.months, 3⟩, Tenor.text ⟨.months, 3⟩, .empty⟩,
          ⟨⟨.years, 1⟩, Tenor.text ⟨.years, 1⟩, ⟨[(.monday, 20.0)], by decide⟩⟩]⟩, .usd⟩ := by
  have converted : ((⟨[(.monday, 0.5)], by decide⟩ : DateSeries Float).scale 20.0).scale 2.0 =
      ⟨[(.monday, 20.0)], by decide⟩ := DateSeries.ext_samples (by decide)
  refine ⟨rfl, ((run_implied_succeeds_iff sparseDeposits rfl ⟨.monday, ⟨0⟩⟩ .none).2 _).mpr
    ⟨sparsePlan, resolved_sparsePlan, rfl, rfl, ?_⟩⟩
  intro i tenor sensitivity here place
  rcases i with _ | _ | i
  · cases here
    cases place
    exact ⟨_, rfl, ⟨[(.friday, 1.0)], by decide⟩, .empty, rfl, rfl, .snapshot, rfl, rfl⟩
  · cases here
    cases place
    refine ⟨_, rfl, ⟨[(.friday, 2.0), (.monday, 2.5)], by decide⟩, ⟨[(.monday, 0.5)], by decide⟩,
      rfl, ?_, ?_, rfl, rfl⟩
    · exact congrArg Except.ok (DateSeries.ext_samples (by decide))
    · rw [← converted]
      exact .snapshot
  · cases here

end Sources

end CurvePnl
