import CurvePnl.Proofs.SharedSteps
import CurvePnl.Series.Returns

/-! # Runs on quoted curves

A run on a quoted curve is described by what it resolves beforehand, and by what it does to one
node. The main statement says exactly when such a run succeeds, and with which attribution.
-/

namespace CurvePnl

variable {α : Type} [Quantity α]

/-- What a run on a quoted curve resolves before it looks at any node. -/
structure QuotedPlan (α : Type) where
  bundle : SensitivityBundle α
  specification : CurveSpecification
  /-- The entry of the bundle that counts. -/
  entry : SensitivityEntry α
  fetched : DateWindow
  conversion : Option (DateSeries α)

/-- The series that histories are multiplied with: one is needed exactly if an output currency
other than the native one is asked for. -/
inductive Sources.QuotedConversion (s : Sources α) (native : Currency) (window : DateWindow) :
    Option Currency → Option (DateSeries α) → Prop where
  | unasked : QuotedConversion s native window none none
  | native : QuotedConversion s native window (some native) none
  | needed {output rates} (different : output ≠ native)
      (found : s.ConversionRates native output window rates) :
      QuotedConversion s native window (some output) (some rates)

namespace QuotedPlan

/-- The sources answer with this plan. -/
structure Resolved (p : QuotedPlan α) (s : Sources α) (request : AttributionRequest)
    (curve : CurveName) (on : Date) : Prop where
  pair : ∃ pair, s.pair request.position.pair = .ok pair
  sensitivities : s.sensitivities request.position on = .ok p.bundle
  specification : s.specification curve on = .ok p.specification
  entry : (p.bundle.forCurve curve).head? = some p.entry
  count : p.entry.vector.length = p.specification.nodes.length
  lead : request.window.fetched? = some p.fetched
  conversion :
    s.QuotedConversion p.entry.currency p.fetched request.outputCurrency p.conversion

/-- The history of a node is returned, each of its dates from the base sample on is sampled in the
conversion series, and the returns can be taken. -/
def NodeReady (p : QuotedPlan α) (s : Sources α) (request : AttributionRequest)
    (node : CurveNode) : Prop :=
  ∃ history, s.nodeHistory node p.fetched = .ok history ∧
    (∀ rates, p.conversion = some rates →
      ∀ d ∈ (history.trimTo request.window.first).dates, (rates.valueOn? d).isSome) ∧
    ∀ levels, ConvertedLevels (history.trimTo request.window.first) p.conversion levels →
      ∃ moves, s.returns levels = .ok moves

/-- `column` is the profit and loss of a node with a sensitivity. -/
def NodePnl (p : QuotedPlan α) (s : Sources α) (request : AttributionRequest) (node : CurveNode)
    (sensitivity : α) (column : Column α) : Prop :=
  ∃ history levels moves, s.nodeHistory node p.fetched = .ok history ∧
    ConvertedLevels (history.trimTo request.window.first) p.conversion levels ∧
    s.returns levels = .ok moves ∧ column.key = node.maturity ∧
    column.label = node.name.getD node.maturity.text ∧ column.series = moves.scale sensitivity

theorem exists_nodePnl_iff {p : QuotedPlan α} {s : Sources α} {request : AttributionRequest}
    {node : CurveNode} {sensitivity : α} :
    (∃ column, p.NodePnl s request node sensitivity column) ↔ p.NodeReady s request node := by
  constructor
  · rintro ⟨column, history, levels, moves, returned, converted, taken, -⟩
    refine ⟨history, returned, ConvertedLevels.exists_iff.mp ⟨levels, converted⟩, ?_⟩
    intro levels' converted'
    rw [← converted.unique converted']
    exact ⟨moves, taken⟩
  · rintro ⟨history, returned, sampled, taken⟩
    obtain ⟨levels, converted⟩ := ConvertedLevels.exists_iff.mpr sampled
    obtain ⟨moves, ok⟩ := taken levels converted
    exact ⟨⟨_, _, _⟩, history, levels, moves, returned, converted, ok, rfl, rfl, rfl⟩

end QuotedPlan

namespace Sources

variable (s : Sources α)

omit [Quantity α] in
theorem outcome_quotedInputs_eq_ok {request : AttributionRequest} {curve : CurveName} {on : Date}
    {bundle : SensitivityBundle α} {specification : CurveSpecification} {j : Journal α} :
    (s.quotedInputs request curve on).outcome j = .ok (bundle, specification) ↔
      (∃ pair, s.pair request.position.pair = .ok pair) ∧
        s.sensitivities request.position on = .ok bundle ∧
        s.specification curve on = .ok specification := by
  simp only [quotedInputs, askPair, askSensitivities, askSpecification, Work.outcome_bind_eq_ok,
    Work.outcome_ask]
  rcases s.pair request.position.pair with _ | pair <;>
    rcases s.sensitivities request.position on with _ | b <;>
    rcases s.specification curve on with _ | sp <;> simp

theorem outcome_quotedColumn_eq_ok {p : QuotedPlan α} {request : AttributionRequest}
    {curve : CurveName} {node : CurveNode} {sensitivity : α} {column : Column α} {j : Journal α} :
    (s.quotedColumn request curve p.fetched p.conversion node sensitivity).outcome j = .ok column ↔
      p.NodePnl s request node sensitivity column := by
  have parts (moves : DateSeries α) :
      ⟨node.maturity, node.label, moves.scale sensitivity⟩ = column ↔
        column.key = node.maturity ∧ column.label = node.name.getD node.maturity.text ∧
          column.series = moves.scale sensitivity := by
    cases column
    simp [CurveNode.label, eq_comm]
  simp [quotedColumn, askNodeHistory, outcome_convertedReturns_eq_ok, parts, QuotedPlan.NodePnl]
  grind

theorem outcome_quotedConversion_eq_ok {native : Currency} {output : Option Currency}
    {window : DateWindow} {conversion : Option (DateSeries α)} {j : Journal α} :
    (s.quotedConversion native output window).outcome j = .ok conversion ↔
      s.QuotedConversion native window output conversion := by
  unfold quotedConversion
  split
  next none =>
    rcases conversionNeeded_eq_none.mp none with rfl | rfl
    · constructor
      · intro h
        cases h
        exact .unasked
      · intro h
        cases h
        rfl
    · constructor
      · intro h
        cases h
        exact .native
      · intro h
        cases h with
        | native => rfl
        | needed different => exact absurd rfl different
  next target needed =>
    obtain ⟨rfl, different⟩ := conversionNeeded_eq_some.mp needed
    simp only [Work.outcome_map_eq_ok, outcome_conversionSeries_eq_ok]
    constructor
    · rintro ⟨rates, found, rfl⟩
      exact .needed different found
    · intro h
      cases h with
      | native => exact absurd rfl different
      | needed _ found => exact ⟨_, found, rfl⟩

theorem outcome_attributeQuoted_eq_ok {request : AttributionRequest} {curve : CurveName}
    {on : Date} {a : Attribution α} {j : Journal α} :
    (s.attributeQuoted request curve on).outcome j = .ok a ↔
      ∃ p : QuotedPlan α, p.Resolved s request curve on ∧
        a.currency = request.outputCurrency.getD p.entry.currency ∧
        List.Forall₂ (fun q column => p.NodePnl s request q.1 q.2 column)
          (p.specification.nodes.zip p.entry.vector) a.matrix.columns := by
  have columns (p : QuotedPlan α) (l : List (Column α)) (j : Journal α) :
      ((p.specification.nodes.zip p.entry.vector).mapM fun (node, sensitivity) =>
        s.quotedColumn request curve p.fetched p.conversion node sensitivity).outcome j = .ok l ↔
      List.Forall₂ (fun q column => p.NodePnl s request q.1 q.2 column)
        (p.specification.nodes.zip p.entry.vector) l :=
    Work.outcome_mapM_eq_ok fun _ _ _ _ => s.outcome_quotedColumn_eq_ok
  rw [attributeQuoted_eq]
  constructor
  · intro h
    obtain ⟨⟨bundle, specification⟩, inputs, h⟩ := Work.outcome_bind_eq_ok.mp h
    obtain ⟨pair, sensitivities, specified⟩ := s.outcome_quotedInputs_eq_ok.mp inputs
    obtain ⟨matched, found, h⟩ := Work.outcome_bind_eq_ok.mp h
    obtain ⟨entry, first, rfl⟩ := SensitivityBundle.matched?_eq_some_iff.mp
      (SensitivityBundle.outcome_matchCurve_eq_ok.mp found)
    obtain ⟨_, count, h⟩ := Work.outcome_bind_eq_ok.mp h
    obtain ⟨fetched, lead, h⟩ := Work.outcome_bind_eq_ok.mp h
    obtain ⟨conversion, converted, h⟩ := Work.outcome_bind_eq_ok.mp h
    obtain ⟨l, worked, h⟩ := Work.outcome_bind_eq_ok.mp h
    cases h
    refine ⟨⟨bundle, specification, entry, fetched, conversion⟩, ⟨pair, sensitivities, specified,
      first, (Work.outcome_checkCount_eq_ok.mp count).symm, Work.outcome_inRange_eq_ok.mp lead,
      s.outcome_quotedConversion_eq_ok.mp converted⟩, rfl, ?_⟩
    exact (columns _ _ _).mp worked
  · rintro ⟨p, resolved, currency, worked⟩
    refine Work.outcome_bind_ok (s.outcome_quotedInputs_eq_ok.mpr
      ⟨resolved.pair, resolved.sensitivities, resolved.specification⟩) ?_
    refine Work.outcome_bind_ok (SensitivityBundle.outcome_matchCurve_eq_ok.mpr
      (SensitivityBundle.matched?_eq_some_iff.mpr ⟨p.entry, resolved.entry, rfl⟩)) ?_
    refine Work.outcome_bind_ok (Work.outcome_checkCount_eq_ok.mpr resolved.count.symm) ?_
    refine Work.outcome_bind_ok (Work.outcome_inRange_eq_ok.mpr resolved.lead) ?_
    refine Work.outcome_bind_ok (s.outcome_quotedConversion_eq_ok.mpr resolved.conversion) ?_
    refine Work.outcome_bind_ok ((columns p a.matrix.columns _).mpr worked) ?_
    rw [Work.outcome_pure, ← currency]

/-- A run on a quoted curve succeeds exactly if its inputs resolve and every node is ready. It then
has one column per node of the specification, in order, with the sensitivity of that place. -/
theorem run_quoted_succeeds_iff {request : AttributionRequest} {curve : CurveName}
    (quoted : request.curve = .quoted curve) (context : ValuationContext) (tokens : Tokens) :
    ((∃ a, (s.run request context tokens).1 = .ok a) ↔
      ∃ p : QuotedPlan α, p.Resolved s request curve context.date ∧
        ∀ node ∈ p.specification.nodes, p.NodeReady s request node) ∧
    ∀ a, (s.run request context tokens).1 = .ok a ↔
      ∃ p : QuotedPlan α, p.Resolved s request curve context.date ∧
        a.currency = request.outputCurrency.getD p.entry.currency ∧
        a.matrix.size = p.specification.nodes.length ∧
        ∀ (i : Nat) node sensitivity, p.specification.nodes[i]? = some node →
          p.entry.vector[i]? = some sensitivity →
          ∃ column, a.matrix.columns[i]? = some column ∧
            p.NodePnl s request node sensitivity column := by
  have begun (a : Attribution α) : (s.run request context tokens).1 = .ok a ↔
      (s.attributeQuoted request curve context.date).outcome
        (.blank (tokens.isCancelled context.token)) = .ok a := by
    rw [run_fst_eq_ok, quoted]
  have yields (a : Attribution α) := (begun a).trans s.outcome_attributeQuoted_eq_ok
  refine ⟨⟨?_, ?_⟩, ?_⟩
  · rintro ⟨a, ok⟩
    obtain ⟨p, resolved, -, worked⟩ := (yields a).mp ok
    refine ⟨p, resolved, ?_⟩
    intro node member
    obtain ⟨i, here⟩ := List.mem_iff_getElem?.mp member
    obtain ⟨inside, -⟩ := List.getElem?_eq_some_iff.mp here
    have sensitivity := List.getElem?_eq_getElem (resolved.count.symm ▸ inside)
    obtain ⟨column, -, pnl⟩ :=
      ((Work.forall₂_zip_iff resolved.count.symm).mp worked).2 i node _ here sensitivity
    exact QuotedPlan.exists_nodePnl_iff.mp ⟨column, pnl⟩
  · rintro ⟨p, resolved, ready⟩
    obtain ⟨columns, worked⟩ := Work.exists_forall₂_iff.mpr fun q member =>
      QuotedPlan.exists_nodePnl_iff.mpr (ready q.1 (List.of_mem_zip member).1)
    exact ⟨⟨⟨columns⟩, _⟩, (yields _).mpr ⟨p, resolved, rfl, worked⟩⟩
  · intro a
    rw [yields]
    exact exists_congr fun p => and_congr_right fun resolved => and_congr_right fun _ =>
      Work.forall₂_zip_iff resolved.count.symm

/-- A euro curve of two nodes and its dollar rates, sampled on Friday and Monday. -/
def euroDeposits : Sources Float :=
  { silent with
    pair := fun _ => .ok ⟨.eur, .usd⟩
    sensitivities := fun _ _ => .ok ⟨[⟨"EUR-OIS", .eur, [10.0, 20.0]⟩]⟩
    specification := fun curve _ =>
      .ok ⟨curve, [⟨"EUR3M", ⟨.months, 3⟩, none⟩, ⟨"EUR1Y", ⟨.years, 1⟩, some "1Y Swap"⟩]⟩
    nodeHistory := fun _ _ => .ok ⟨[(.friday, 1.0), (.monday, 1.5)], by decide⟩
    fxHistory := fun _ _ => .ok ⟨[(.friday, 1.0), (.monday, 2.0)], by decide⟩
    returns := fun x => .ok x.absoluteReturns }

def mondayInDollars : AttributionRequest :=
  { position := ⟨"FXF-1", .eur, .usd⟩
    curve := .quoted "EUR-OIS"
    curveCurrency := .eur
    window := monday
    outputCurrency := some .usd
    mode := .snapshot }

theorem run_quoted_euroDeposits :
    mondayInDollars.curve = .quoted "EUR-OIS" ∧
      ∃ a, (euroDeposits.run mondayInDollars ⟨.monday, ⟨0⟩⟩ .none).1 = .ok a := by
  have rates : euroDeposits.ConversionRates .eur .usd weekToMonday
      ⟨[(.friday, 1.0), (.monday, 2.0)], by decide⟩ := ⟨⟨.eur, .usd⟩, _, rfl, rfl, rfl⟩
  refine ⟨rfl, (run_quoted_succeeds_iff euroDeposits rfl ⟨.monday, ⟨0⟩⟩ .none).1.mpr
    ⟨⟨_, _, ⟨"EUR-OIS", .eur, [10.0, 20.0]⟩, _, _⟩,
      ⟨⟨_, rfl⟩, rfl, rfl, rfl, rfl, rfl, .needed (by decide) rates⟩, ?_⟩⟩
  intro node _
  refine ⟨_, rfl, ?_, fun _ _ => ⟨_, rfl⟩⟩
  rintro _ ⟨⟩
  decide

/-- A curve without nodes, and so without sensitivities. -/
def emptyCurve : Sources Float :=
  { silent with
    pair := fun _ => .ok ⟨.eur, .usd⟩
    sensitivities := fun _ _ => .ok ⟨[⟨"USD-OIS", .usd, []⟩]⟩
    specification := fun curve _ => .ok ⟨curve, []⟩ }

/-- A request for days of the first week of the calendar. -/
def firstWeek : AttributionRequest :=
  { position := ⟨"FXF-1", .usd, .eur⟩
    curve := .quoted "USD-OIS"
    curveCurrency := .usd
    window := ⟨⟨-95745820, by decide, by decide⟩, ⟨-95745815, by decide, by decide⟩, by decide⟩
    outputCurrency := none
    mode := .snapshot }

/-- Resolved inputs and ready nodes are not enough: a window in the first week of the calendar has
no lead, and the run aborts. -/
theorem not_forall_run_quoted_succeeds :
    ¬ ∀ (s : Sources Float) (request : AttributionRequest) (curve : CurveName)
      (context : ValuationContext) (tokens : Tokens) (pair : CurrencyPair)
      (bundle : SensitivityBundle Float) (specification : CurveSpecification)
      (entry : SensitivityEntry Float),
      request.curve = .quoted curve → s.pair request.position.pair = .ok pair →
      s.sensitivities request.position context.date = .ok bundle →
      s.specification curve context.date = .ok specification →
      (bundle.forCurve curve).head? = some entry →
      entry.vector.length = specification.nodes.length → request.outputCurrency = none →
      (∀ node ∈ specification.nodes, ∀ window, ∃ history, s.nodeHistory node window = .ok history ∧
        ∃ moves, s.returns (history.trimTo request.window.first) = .ok moves) →
      ∃ a, (s.run request context tokens).1 = .ok a := by
  intro succeeds
  obtain ⟨a, ok⟩ := succeeds emptyCurve firstWeek "USD-OIS" ⟨.monday, ⟨0⟩⟩ .none _ _ _
    ⟨"USD-OIS", .usd, []⟩ rfl rfl rfl rfl rfl rfl rfl (by nofun)
  have aborted : (emptyCurve.run firstWeek ⟨.monday, ⟨0⟩⟩ .none).1 = .error .aborted := rfl
  rw [aborted] at ok
  cases ok

end Sources

end CurvePnl
