import CurvePnl.Proofs.Bundles
import CurvePnl.Proofs.HistoryRows
import CurvePnl.Proofs.NativeCurrency
import CurvePnl.Proofs.ReplaySteps
import CurvePnl.Proofs.SharedSteps

/-! # What a run does not read

Of all sensitivities a run reads the entries of its own curve, and of all histories those of the
curve's nodes and of the pair that it converts with, within the fetched window. Two runs whose data
differ in nothing that is read are the same: they ask the same questions, note the same events and
end in the same way.
-/

namespace CurvePnl

variable {α : Type}

namespace Work

variable {β γ δ : Type}

theorem ask_bind_congr {c : Call} {answer answer' : Except SourceError β}
    {f f' : Except SourceError β → Work α γ} (same : f answer = f' answer') :
    (ask c answer >>= f) = ask c answer' >>= f' := by
  apply ExceptT.ext
  apply StateT.ext
  intro j
  have next : (f answer).run.run { j with calls := j.calls.push c } =
      (f' answer').run.run { j with calls := j.calls.push c } := by rw [same]
  exact next

theorem mapM_congr {f g : β → Work α γ} {l : List β} (same : ∀ b ∈ l, f b = g b) :
    l.mapM f = l.mapM g := by
  induction l with
  | nil => rfl
  | cons b rest ih =>
      obtain ⟨first, others⟩ := List.forall_mem_cons.mp same
      rw [List.mapM_cons, List.mapM_cons, first, ih others]

end Work

/-- Rows tell the same of a series within a window: the same samples in some order, and both name
the series or neither. -/
structure HistoryRow.AgreeOn (rows rows' : List (HistoryRow α)) (id : String)
    (window : DateWindow) : Prop where
  samples : (rows.filter fun row => row.id = id ∧ window.contains row.date).Perm
    (rows'.filter fun row => row.id = id ∧ window.contains row.date)
  named : (∃ row ∈ rows, row.id = id) ↔ ∃ row ∈ rows', row.id = id

namespace HistoryStore.Holds

variable {s t : HistoryStore α} {rows rows' : List (HistoryRow α)} {id : String}
  {window : DateWindow}

theorem lookup_isSome_iff (holds : s.Holds rows) :
    (∃ x, s.series.lookup id = some x) ↔ ∃ row ∈ rows, row.id = id := by
  rw [← Option.ne_none_iff_exists', Ne, holds.lookup_eq_none_iff, HistoryRow.listed_eq_nil_iff]
  simp

theorem mem_between_iff (holds : s.Holds rows) {x : DateSeries α}
    (found : s.series.lookup id = some x) {a : Sample α} :
    a ∈ (x.between window.first window.last).samples ↔
      ∃ row ∈ rows.filter fun row => row.id = id ∧ window.contains row.date, row.sample = a := by
  obtain ⟨-, listed⟩ := holds.lookup_eq_some_iff.mp found
  rw [DateSeries.mem_samples_between, listed.mem_iff, HistoryRow.listed, List.mem_map]
  simp only [List.mem_filter, decide_eq_true_eq, DateWindow.contains]
  constructor
  · rintro ⟨⟨row, ⟨member, named⟩, rfl⟩, within⟩
    exact ⟨row, ⟨member, named, within⟩, rfl⟩
  · rintro ⟨row, ⟨member, named, within⟩, rfl⟩
    exact ⟨⟨row, ⟨member, named⟩, rfl⟩, within⟩

/-- What a store answers depends on the rows of the series within the window only. -/
theorem history_congr (holds : s.Holds rows) (holds' : t.Holds rows')
    (agree : HistoryRow.AgreeOn rows rows' id window) :
    s.history id window = t.history id window := by
  have both := holds.lookup_isSome_iff.trans (agree.named.trans holds'.lookup_isSome_iff.symm)
  unfold history
  cases found : s.series.lookup id with
  | none =>
      cases found' : t.series.lookup id with
      | none => rfl
      | some y =>
          obtain ⟨x, impossible⟩ := both.mpr ⟨y, found'⟩
          rw [found] at impossible
          cases impossible
  | some x =>
      obtain ⟨y, found'⟩ := both.mp ⟨x, found⟩
      have same : x.between window.first window.last = y.between window.first window.last :=
        DateSeries.ext_mem fun a => by
          simp only [holds.mem_between_iff found, holds'.mem_between_iff found',
            agree.samples.mem_iff]
      rw [found']
      exact congrArg Except.ok same

end HistoryStore.Holds

namespace SensitivityBundle

/-- What the entries of a curve say, in order. -/
def vectorsOf (b : SensitivityBundle α) (curve : CurveName) : List (Currency × List α) :=
  (b.forCurve curve).map fun e => (e.currency, e.vector)

theorem forCurve_congr {b b' : SensitivityBundle α} {curve : CurveName}
    (same : b.vectorsOf curve = b'.vectorsOf curve) : b.forCurve curve = b'.forCurve curve := by
  have rebuilt (b : SensitivityBundle α) :
      b.forCurve curve = (b.vectorsOf curve).map fun v => ⟨curve, v.1, v.2⟩ := by
    have own : ∀ e ∈ b.forCurve curve,
        (⟨curve, e.currency, e.vector⟩ : SensitivityEntry α) = e := by
      intro e member
      rw [← curve_of_mem_forCurve member]
    rw [vectorsOf, List.map_map]
    exact ((List.map_congr_left own).trans (List.map_id _)).symm
  rw [rebuilt b, rebuilt b', same]

theorem matchCurve_congr {b b' : SensitivityBundle α} {curve : CurveName}
    (same : b.vectorsOf curve = b'.vectorsOf curve) : b.matchCurve curve = b'.matchCurve curve := by
  rw [matchCurve, matchCurve, matched?_congr (forCurve_congr same)]

end SensitivityBundle

namespace Sources

variable [Quantity α] {s : Sources α} {request : AttributionRequest} {on : Date}

/-- The sources with other sensitivities. -/
def withSensitivities (s : Sources α)
    (sensitivities : Position → Date → Except SourceError (SensitivityBundle α)) : Sources α :=
  { s with sensitivities }

theorem attributeQuoted_withSensitivities {curve : CurveName} {b b' : SensitivityBundle α}
    {sensitivities : Position → Date → Except SourceError (SensitivityBundle α)}
    (here : s.sensitivities request.position on = .ok b)
    (there : sensitivities request.position on = .ok b')
    (same : b.vectorsOf curve = b'.vectorsOf curve) :
    (s.withSensitivities sensitivities).attributeQuoted request curve on =
      s.attributeQuoted request curve on := by
  unfold attributeQuoted quotedInputs
  simp only [bind_assoc]
  apply Work.ask_bind_congr
  apply Work.ask_bind_congr
  apply Work.ask_bind_congr
  simp only [withSensitivities, here, there]
  cases s.pair request.position.pair with
  | error e => rfl
  | ok pair =>
      cases s.specification curve on with
      | error e => rfl
      | ok specification =>
          simp only [pure_bind, SensitivityBundle.matchCurve_congr same]
          rfl

theorem attributeImplied_withSensitivities {curve : CurveName} {construction : ConstructionName}
    {b b' : SensitivityBundle α}
    {sensitivities : Position → Date → Except SourceError (SensitivityBundle α)}
    (here : s.sensitivities request.position on = .ok b)
    (there : sensitivities request.position on = .ok b')
    (same : b.vectorsOf curve = b'.vectorsOf curve) :
    (s.withSensitivities sensitivities).attributeImplied request curve construction on =
      s.attributeImplied request curve construction on := by
  have curves (setup : ReplaySetup) (window : DateWindow) :
      (s.withSensitivities sensitivities).replay setup window = s.replay setup window :=
    replay_congr (by rfl) setup window
  unfold attributeImplied impliedInputs
  simp only [bind_assoc, curves]
  apply Work.ask_bind_congr
  apply Work.ask_bind_congr
  apply bind_congr
  intro fetched
  apply bind_congr
  intro conversion
  simp only [withSensitivities, here, there]
  cases s.pair request.position.pair with
  | error e => rfl
  | ok pair =>
      cases conversion with
      | error e => rfl
      | ok conversion =>
          simp only [pure_bind, SensitivityBundle.matchCurve_congr same]
          rfl

/-- The sources with the histories of a store. -/
def withHistories (s : Sources α) (h : HistoryStore α) : Sources α :=
  { s with nodeHistory := h.nodeHistory, fxHistory := h.fxHistory }

/-- The names of the histories that a run reads: the nodes of a quoted curve, and the pair of the
native and the output currency. -/
inductive ReadsHistory (s : Sources α) (request : AttributionRequest) (on : Date) :
    String → Prop where
  | node {curve specification node} (quoted : request.curve = .quoted curve)
      (specified : s.specification curve on = .ok specification)
      (member : node ∈ specification.nodes) : ReadsHistory s request on node.key
  | quotedPair {curve bundle matched output pair} (quoted : request.curve = .quoted curve)
      (bundled : s.sensitivities request.position on = .ok bundle)
      (counts : bundle.matched? curve = some matched)
      (asked : request.outputCurrency = some output) (different : output ≠ matched.currency)
      (paired : s.pair (.of matched.currency output) = .ok pair) :
      ReadsHistory s request on pair.code
  | impliedPair {curve construction output pair}
      (implied : request.curve = .implied curve construction)
      (asked : request.outputCurrency = some output) (different : output ≠ request.curveCurrency)
      (paired : s.pair (.of request.curveCurrency output) = .ok pair) :
      ReadsHistory s request on pair.code

variable {h h' : HistoryStore α} {fetched : DateWindow}

theorem conversionSeries_withHistories {native output : Currency}
    (same : ∀ pair, s.pair (.of native output) = .ok pair →
      h'.history pair.code fetched = h.history pair.code fetched) :
    (s.withHistories h').conversionSeries native output fetched =
      (s.withHistories h).conversionSeries native output fetched := by
  apply Work.ask_bind_congr
  simp only [withHistories]
  cases paired : s.pair (.of native output) with
  | error e => rfl
  | ok pair =>
      simp only [Work.require, pure_bind, askFxHistory, HistoryStore.fxHistory, same pair paired]

theorem quotedConversion_withHistories {native : Currency}
    (same : ∀ output pair, request.outputCurrency = some output → output ≠ native →
      s.pair (.of native output) = .ok pair →
      h'.history pair.code fetched = h.history pair.code fetched) :
    (s.withHistories h').quotedConversion native request.outputCurrency fetched =
      (s.withHistories h).quotedConversion native request.outputCurrency fetched := by
  unfold quotedConversion
  split
  · rfl
  next output needed =>
    obtain ⟨asked, different⟩ := conversionNeeded_eq_some.mp needed
    rw [conversionSeries_withHistories fun pair => same output pair asked different]

theorem pnlConversion_withHistories {native : Currency} {mode : ConversionMode}
    (same : ∀ output pair, request.outputCurrency = some output → output ≠ native →
      s.pair (.of native output) = .ok pair →
      h'.history pair.code fetched = h.history pair.code fetched) :
    (s.withHistories h').pnlConversion native request.outputCurrency mode fetched on =
      (s.withHistories h).pnlConversion native request.outputCurrency mode fetched on := by
  unfold pnlConversion
  split
  · rfl
  next output needed =>
    obtain ⟨asked, different⟩ := conversionNeeded_eq_some.mp needed
    rw [conversionSeries_withHistories fun pair => same output pair asked different]
    rfl

theorem quotedColumn_withHistories {curve : CurveName} {conversion : Option (DateSeries α)}
    {node : CurveNode} {sensitivity : α}
    (same : h'.history node.key fetched = h.history node.key fetched) :
    (s.withHistories h').quotedColumn request curve fetched conversion node sensitivity =
      (s.withHistories h).quotedColumn request curve fetched conversion node sensitivity := by
  simp only [quotedColumn, askNodeHistory, withHistories, HistoryStore.nodeHistory, same]
  rfl

theorem attributeQuoted_withHistories {curve : CurveName} (quoted : request.curve = .quoted curve)
    (same : ∀ fetched, request.window.fetched? = some fetched → ∀ id,
      s.ReadsHistory request on id → h'.history id fetched = h.history id fetched) :
    (s.withHistories h').attributeQuoted request curve on =
      (s.withHistories h).attributeQuoted request curve on := by
  rw [attributeQuoted_eq, attributeQuoted_eq]
  apply Work.bind_congr_of_ok
  intro j inputs found
  obtain ⟨-, bundled, specified⟩ := (s.withHistories h').outcome_quotedInputs_eq_ok.mp found
  apply Work.bind_congr_of_ok
  intro j matched counts
  have counts := SensitivityBundle.outcome_matchCurve_eq_ok.mp counts
  apply bind_congr
  intro _
  apply Work.bind_congr_of_ok
  intro j fetched lead
  have lead := Work.outcome_inRange_eq_ok.mp lead
  rw [quotedConversion_withHistories fun output pair asked different paired =>
    same fetched lead _ (.quotedPair quoted bundled counts asked different paired)]
  apply bind_congr
  intro conversion
  rw [Work.mapM_congr fun q member => quotedColumn_withHistories
    (same fetched lead _ (.node quoted specified (List.of_mem_zip member).1))]

theorem attributeImplied_withHistories {curve : CurveName} {construction : ConstructionName}
    (implied : request.curve = .implied curve construction)
    (same : ∀ fetched, request.window.fetched? = some fetched → ∀ id,
      s.ReadsHistory request on id → h'.history id fetched = h.history id fetched) :
    (s.withHistories h').attributeImplied request curve construction on =
      (s.withHistories h).attributeImplied request curve construction on := by
  have inputs : (s.withHistories h').impliedInputs request on =
      (s.withHistories h).impliedInputs request on := by
    apply Work.ask_bind_congr
    apply Work.ask_bind_congr
    apply Work.bind_congr_of_ok
    intro j fetched lead
    have lead := Work.outcome_inRange_eq_ok.mp lead
    rw [pnlConversion_withHistories fun output pair asked different paired =>
      same fetched lead _ (.impliedPair implied asked different paired)]
    rfl
  unfold attributeImplied
  have curves : (s.withHistories h').replay { construction } request.window =
      (s.withHistories h).replay { construction } request.window := replay_congr (by rfl) _ _
  rw [inputs, curves]
  rfl

/-- Of the sensitivities only the entries of the requested curve count, in their order; and of the
rows of histories only those that are read and dated within the fetched window, in any order. Two
runs that differ elsewhere are the same run, with the same questions, events and outcome. -/
theorem run_reads_own_data (s : Sources α) (request : AttributionRequest)
    (context : ValuationContext) (tokens : Tokens) :
    (∀ (sensitivities : Position → Date → Except SourceError (SensitivityBundle α))
        (b b' : SensitivityBundle α), s.sensitivities request.position context.date = .ok b →
        sensitivities request.position context.date = .ok b' →
        b.vectorsOf request.curve.name = b'.vectorsOf request.curve.name →
        (s.withSensitivities sensitivities).run request context tokens =
          s.run request context tokens) ∧
      ∀ rows rows' : List (HistoryRow α), (rows.map HistoryRow.key).Nodup →
        (rows'.map HistoryRow.key).Nodup →
        (∀ fetched, request.window.fetched? = some fetched → ∀ id,
          s.ReadsHistory request context.date id → HistoryRow.AgreeOn rows rows' id fetched) →
        ∃ h h' : HistoryStore α,
          DataSet.reloaded (HistoryStore.empty.reload (some ⟨rows, none⟩)) = .ok h ∧
          DataSet.reloaded (HistoryStore.empty.reload (some ⟨rows', none⟩)) = .ok h' ∧
          (s.withHistories h').run request context tokens =
            (s.withHistories h).run request context tokens := by
  refine ⟨?sensitivities, ?histories⟩
  case sensitivities =>
    intro sensitivities b b' here there same
    have work : (s.withSensitivities sensitivities).attribution request context.date =
        s.attribution request context.date := by
      unfold attribution
      cases identity : request.curve with
      | quoted curve =>
          rw [identity] at same
          have alike : (s.withSensitivities sensitivities).attributeQuoted request curve
              context.date = _ := attributeQuoted_withSensitivities here there same
          simp only [alike]
      | implied curve construction =>
          rw [identity] at same
          have alike : (s.withSensitivities sensitivities).attributeImplied request curve
              construction context.date = _ := attributeImplied_withSensitivities here there same
          simp only [alike]
    rw [run, run, work]
  case histories =>
    intro rows rows' distinct distinct' agree
    obtain ⟨h, loaded, holds⟩ := HistoryStore.exists_loaded distinct
    obtain ⟨h', loaded', holds'⟩ := HistoryStore.exists_loaded distinct'
    have same (fetched : DateWindow) (lead : request.window.fetched? = some fetched) (id : String)
        (read : s.ReadsHistory request context.date id) :
        h'.history id fetched = h.history id fetched :=
      (holds.history_congr holds' (agree fetched lead id read)).symm
    have work : (s.withHistories h').attribution request context.date =
        (s.withHistories h).attribution request context.date := by
      unfold attribution
      cases identity : request.curve with
      | quoted curve => simp only [attributeQuoted_withHistories identity same]
      | implied curve construction => simp only [attributeImplied_withHistories identity same]
    exact ⟨h, h', loaded, loaded', by rw [run, run, work]⟩

/-- The sensitivities to the euro deposits, with those to a dollar curve around them. -/
def amidDollars : SensitivityBundle Float :=
  ⟨[⟨"USD-OIS", .usd, [7.0]⟩, ⟨"EUR-OIS", .eur, [10.0, 20.0]⟩, ⟨"USD-OIS", .eur, []⟩]⟩

def euroRows : List (HistoryRow Float) :=
  [⟨"EUR3M", .friday, 1.0⟩, ⟨"EUR3M", .monday, 1.5⟩, ⟨"EUR1Y", .monday, 1.2⟩,
    ⟨"EURUSD", .monday, 2.0⟩]

/-- The rows and two more: of another series, and after the window. -/
def moreRows : List (HistoryRow Float) :=
  ⟨"USD3M", .monday, 5.0⟩ :: ⟨"EUR3M", Date.last, 9.0⟩ :: euroRows

theorem agree_of_read {id : String}
    (read : euroDeposits.ReadsHistory mondayInDollars .monday id) :
    HistoryRow.AgreeOn euroRows moreRows id weekToMonday := by
  have known : id = "EUR3M" ∨ id = "EUR1Y" ∨ id = "EURUSD" := by
    cases read with
    | node _ specified member =>
        cases specified
        simp only [List.mem_cons, List.not_mem_nil, or_false] at member
        rcases member with rfl | rfl
        · exact .inl rfl
        · exact .inr (.inl rfl)
    | quotedPair _ _ _ _ _ paired =>
        cases paired
        exact .inr (.inr rfl)
    | impliedPair implied => cases implied
  rcases known with rfl | rfl | rfl
  all_goals exact ⟨.refl _, by simp [moreRows, euroRows]⟩

theorem run_euroDeposits_amid_others :
    (euroDeposits.withSensitivities fun _ _ => .ok amidDollars).run mondayInDollars
        ⟨.monday, ⟨0⟩⟩ .none = euroDeposits.run mondayInDollars ⟨.monday, ⟨0⟩⟩ .none ∧
      ∃ h h' : HistoryStore Float,
        DataSet.reloaded (HistoryStore.empty.reload (some ⟨euroRows, none⟩)) = .ok h ∧
        DataSet.reloaded (HistoryStore.empty.reload (some ⟨moreRows, none⟩)) = .ok h' ∧
        (euroDeposits.withHistories h').run mondayInDollars ⟨.monday, ⟨0⟩⟩ .none =
          (euroDeposits.withHistories h).run mondayInDollars ⟨.monday, ⟨0⟩⟩ .none := by
  have lead : mondayInDollars.window.fetched? = some weekToMonday := by decide
  obtain ⟨sensitivities, histories⟩ :=
    run_reads_own_data euroDeposits mondayInDollars ⟨.monday, ⟨0⟩⟩ .none
  refine ⟨sensitivities _ _ amidDollars rfl rfl rfl,
    histories euroRows moreRows (by decide) (by decide) fun fetched lead' id read => ?_⟩
  rw [lead] at lead'
  cases lead'
  exact agree_of_read read

end Sources

end CurvePnl
