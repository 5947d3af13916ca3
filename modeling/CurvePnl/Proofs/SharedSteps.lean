import CurvePnl.Attribution.Run
import CurvePnl.Proofs.Conversion

/-! # Steps that all runs share

Runs on quoted and on implied curves look for the entry of their curve in the same way, and take
returns in the same way. What they put together in the end is equally many keys, labels and series,
so the checks of the matrix accept it. The note at the end of a run changes nothing about its
outcome.
-/

namespace CurvePnl

variable {α : Type} [Quantity α]

namespace SensitivityBundle

omit [Quantity α] in
theorem outcome_matchCurve_eq_ok {b : SensitivityBundle α} {curve : CurveName}
    {m : MatchedSensitivity α} {j : Journal α} :
    (b.matchCurve curve).outcome j = .ok m ↔ b.matched? curve = some m := by
  unfold matchCurve
  cases b.matched? curve with
  | none => simp
  | some found =>
      simp only
      split <;> simp

omit [Quantity α] in
theorem matched?_eq_some_iff {b : SensitivityBundle α} {curve : CurveName}
    {m : MatchedSensitivity α} :
    b.matched? curve = some m ↔ ∃ entry, (b.forCurve curve).head? = some entry ∧
      m = ⟨entry.currency, entry.vector, (b.forCurve curve).tail.map (·.currency)⟩ := by
  unfold matched?
  cases b.forCurve curve with
  | nil => simp
  | cons entry rest => simp [eq_comm]

omit [Quantity α] in
theorem matched?_eq_none_iff {b : SensitivityBundle α} {curve : CurveName} :
    b.matched? curve = none ↔ b.forCurve curve = [] := by
  unfold matched?
  cases b.forCurve curve <;> simp

end SensitivityBundle

namespace PnlMatrix

omit [Quantity α] in
theorem keys_eq_map {β : Type} {m : PnlMatrix α} {key : β → Tenor} {l : List β}
    (keyed : List.Forall₂ (fun b column => key b = column.key) l m.columns) :
    m.keys = l.map key := by
  rw [keys, eq_comm, ← List.forall₂_eq_eq_eq, List.forall₂_map_left_iff,
    List.forall₂_map_right_iff]
  exact keyed

omit [Quantity α] in
theorem new_parts (m : PnlMatrix α) : new m.keys m.labels m.series = .ok m := by
  have parts : m.keys.zip (m.labels.zip m.series) =
      m.columns.map fun c => (c.key, c.label, c.series) := by
    simp only [keys, labels, series, List.zip_map']
  have columns : m.columns.map (fun c => (⟨c.key, c.label, c.series⟩ : Column α)) = m.columns :=
    List.map_id _
  rw [new, if_neg (by simp [keys, labels]), if_neg (by simp [keys, series]), parts, List.map_map]
  exact congrArg (fun columns => Except.ok (PnlMatrix.mk columns)) columns

omit [Quantity α] in
theorem keyed_pairs (l : List (Tenor × DateSeries α)) :
    keyed (l.map (·.1)) (l.map (·.2)) = .ok ⟨l.map fun p => ⟨p.1, p.1.text, p.2⟩⟩ := by
  rw [keyed, ← new_parts]
  simp [keys, labels, series, Function.comp_def]

end PnlMatrix

/-- The levels that returns are taken of: the history itself, or its product with a series. -/
inductive ConvertedLevels (history : DateSeries α) :
    Option (DateSeries α) → DateSeries α → Prop where
  | native : ConvertedLevels history none history
  | converted {rates levels} (product : history.IsProduct rates levels) :
      ConvertedLevels history (some rates) levels

namespace ConvertedLevels

@[simp] theorem none_iff {history levels : DateSeries α} :
    ConvertedLevels history none levels ↔ levels = history := by
  constructor
  · rintro ⟨⟩
    rfl
  · rintro rfl
    exact .native

@[simp] theorem some_iff {history rates levels : DateSeries α} :
    ConvertedLevels history (some rates) levels ↔ history.IsProduct rates levels := by
  constructor
  · rintro ⟨⟩
    assumption
  · exact .converted

theorem unique {history : DateSeries α} {conversion : Option (DateSeries α)}
    {levels levels' : DateSeries α} (h : ConvertedLevels history conversion levels)
    (h' : ConvertedLevels history conversion levels') : levels = levels' := by
  cases conversion with
  | none => rw [none_iff.mp h, none_iff.mp h']
  | some rates => exact (some_iff.mp h).unique (some_iff.mp h')

theorem exists_iff {history : DateSeries α} {conversion : Option (DateSeries α)} :
    (∃ levels, ConvertedLevels history conversion levels) ↔
      ∀ rates, conversion = some rates → ∀ d ∈ history.dates, (rates.valueOn? d).isSome := by
  cases conversion with
  | none => simp
  | some rates => simp [DateSeries.exists_isProduct_iff]

theorem dates_eq {history levels : DateSeries α}
    {conversion : Option (DateSeries α)} (h : ConvertedLevels history conversion levels) :
    levels.dates = history.dates := by
  cases h with
  | native => rfl
  | converted product => exact product.dates_eq

end ConvertedLevels

namespace Sources

variable (s : Sources α)

theorem outcome_convertedReturns_eq_ok {history moves : DateSeries α}
    {conversion : Option (DateSeries α)} {j : Journal α} :
    (s.convertedReturns history conversion).outcome j = .ok moves ↔
      ∃ levels, ConvertedLevels history conversion levels ∧ s.returns levels = .ok moves := by
  cases conversion with
  | none => simp [convertedReturns, askReturns]
  | some rates => simp [convertedReturns, askReturns, DateSeries.multiplyAligned_eq_ok]

variable {request : AttributionRequest} {curve : CurveName} {construction : ConstructionName}
  {on : Date} {weeks : Nat}

/-- The series that the histories are multiplied with, as a run looks for it. -/
def quotedConversion (native : Currency) (output : Option Currency) (window : DateWindow) :
    Work α (Option (DateSeries α)) :=
  match conversionNeeded native output with
  | none => pure none
  | some output => some <$> s.conversionSeries native output window

theorem attributeQuoted_eq (request : AttributionRequest) (curve : CurveName) (on : Date)
    (weeks : Nat := DateWindow.leadWeeks) :
    s.attributeQuoted request curve on weeks = (do
      let (bundle, specification) ← s.quotedInputs request curve on
      let matched ← bundle.matchCurve curve
      Work.checkCount curve specification.nodes.length matched.vector.length
      let fetched ← Work.inRange (request.window.fetched? weeks)
      let conversion ← s.quotedConversion matched.currency request.outputCurrency fetched
      let columns ← (specification.nodes.zip matched.vector).mapM fun (node, sensitivity) =>
        s.quotedColumn request curve fetched conversion node sensitivity
      return ⟨⟨columns⟩, request.outputCurrency.getD matched.currency⟩) := by
  have accepted (columns : List (Column α)) :
      PnlMatrix.new (columns.map (·.key)) (columns.map (·.label)) (columns.map (·.series)) =
        .ok ⟨columns⟩ := PnlMatrix.new_parts ⟨columns⟩
  simp only [attributeQuoted, quotedConversion, accepted, Work.ofValues, pure_bind]
  refine bind_congr fun inputs => bind_congr fun matched => bind_congr fun _ =>
    bind_congr fun fetched => ?_
  cases conversionNeeded matched.currency request.outputCurrency <;> rfl

/-- The column of one tenor of an implied curve. -/
def impliedColumn (request : AttributionRequest) (curve : CurveName) (conversion : Conversion α)
    (tenor : Tenor) (rates : DateSeries α) (sensitivity : α) : Work α (Column α) := do
  let moves ← s.convertedReturns (rates.trimTo request.window.first) none
  let pnl ← conversion.apply (moves.scale sensitivity)
  Work.note (.tenorAttributed curve tenor sensitivity pnl.size)
  return ⟨tenor, tenor.text, pnl⟩

theorem map_impliedPnl (conversion : Conversion α) (tenor : Tenor) (rates : DateSeries α)
    (sensitivity : α) :
    (fun p => ⟨p.1, p.1.text, p.2⟩) <$>
        s.impliedPnl request curve conversion tenor rates sensitivity =
      s.impliedColumn request curve conversion tenor rates sensitivity := by
  simp only [impliedPnl, impliedColumn, map_bind, map_pure]

theorem attributeImplied_eq_columns (request : AttributionRequest) (curve : CurveName)
    (construction : ConstructionName) (on : Date) (weeks : Nat := DateWindow.leadWeeks) :
    s.attributeImplied request curve construction on weeks = (do
      let (bundle, conversion) ← s.impliedInputs request on weeks
      let history ← s.replay { construction } request.window weeks
      Work.note (.historyReplayed curve history.builtDays history.skippedDays.length)
      let matched ← bundle.matchCurve curve
      let buckets := history.buckets.sortedSeries
      Work.checkCount curve buckets.length matched.vector.length
      let columns ← (buckets.zip matched.vector).mapM fun ((tenor, rates), sensitivity) =>
        s.impliedColumn request curve conversion tenor rates sensitivity
      return ⟨⟨columns⟩, request.outputCurrency.getD request.curveCurrency⟩) := by
  simp only [attributeImplied, PnlMatrix.keyed_pairs, Work.ofValues, pure_bind,
    ← s.map_impliedPnl, ← Work.map_mapM, bind_map_left]

/-- The note at the end of a run changes nothing about how it ends. -/
theorem run_fst_eq (request : AttributionRequest) (context : ValuationContext) (tokens : Tokens)
    (weeks : Nat := DateWindow.leadWeeks) :
    (s.run request context tokens weeks).1 =
      (match request.curve with
        | .quoted curve => s.attributeQuoted request curve context.date weeks
        | .implied curve construction =>
          s.attributeImplied request curve construction context.date weeks).outcome
        (.blank (tokens.isCancelled context.token)) := by
  have told (w : Work α (Attribution α)) (e : Attribution α → Event α) (j : Journal α) :
      (do let done ← w; Work.note (e done); return done).outcome j = w.outcome j := by
    cases ended : w.outcome j with
    | ok done => rw [Work.outcome_bind_of_ok ended, Work.outcome_bind_of_ok (Work.outcome_note _ _),
        Work.outcome_pure]
    | error e => rw [Work.outcome_bind_of_error ended]
  have begun : (s.run request context tokens weeks).1 =
      (s.attribution request context.date weeks).outcome
        (.blank (tokens.isCancelled context.token)) := rfl
  rw [begun, attribution]
  cases request.curve with
  | quoted curve => exact told _ _ _
  | implied curve construction => exact told _ _ _

theorem run_fst_eq_ok {request : AttributionRequest} {context : ValuationContext}
    {tokens : Tokens} {a : Attribution α} :
    (s.run request context tokens).1 = .ok a ↔
      (match request.curve with
        | .quoted curve => s.attributeQuoted request curve context.date
        | .implied curve construction =>
          s.attributeImplied request curve construction context.date).outcome
        (.blank (tokens.isCancelled context.token)) = .ok a := by
  rw [run_fst_eq]

end Sources

end CurvePnl
