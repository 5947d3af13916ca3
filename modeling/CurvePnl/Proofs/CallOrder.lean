import CurvePnl.Proofs.NativeCurrency
import CurvePnl.Proofs.Questions

/-! # The order of the questions of a run

A run on a quoted curve looks for a conversion or a history only after its checks, and for the
history of a node only after all nodes before it went well. A run on an implied curve constructs no
curve before its inputs are there, and takes no returns before its replay is done.
-/

namespace CurvePnl

variable {α : Type} [Quantity α]

/-- The question is about the order or the rate of two currencies. -/
def Call.isAboutCurrencies : Call → Bool
  | .pair _ | .fxHistory .. | .fxRate .. => true
  | _ => false

namespace Sources

/-- The questions for the inputs of a quoted curve. -/
def quotedInputCalls (request : AttributionRequest) (curve : CurveName) (on : Date) : List Call :=
  sharedCalls request on ++ [.specification curve on]

variable (s : Sources α)

/-- The questions for the inputs of an implied curve. Those for the conversion are asked if the
fetched window is in range. -/
def impliedInputCalls (request : AttributionRequest) (on : Date) : List Call :=
  sharedCalls request on ++ match request.window.fetched? with
    | none => []
    | some fetched =>
      s.pnlConversionCalls request.curveCurrency request.outputCurrency request.mode fetched on

/-- The inputs of a quoted curve are answered, the bundle has an entry of the curve, and it has as
many sensitivities as the curve has nodes. -/
structure PassesChecks (request : AttributionRequest) (curve : CurveName) (on : Date)
    (specification : CurveSpecification) (entry : SensitivityEntry α) : Prop where
  paired : ∃ pair, s.pair request.position.pair = .ok pair
  matched : ∃ bundle, s.sensitivities request.position on = .ok bundle ∧
    (bundle.forCurve curve).head? = some entry
  specified : s.specification curve on = .ok specification
  count : entry.vector.length = specification.nodes.length

/-- The pair, the sensitivities and the conversion of an implied curve are found for a fetched
window. -/
structure HasImpliedInputs (request : AttributionRequest) (on : Date) (fetched : DateWindow) :
    Prop where
  paired : ∃ pair, s.pair request.position.pair = .ok pair
  bundled : ∃ bundle, s.sensitivities request.position on = .ok bundle
  lead : request.window.fetched? = some fetched
  converted : ∃ conversion, s.PnlConversion request.curveCurrency fetched on
    request.outputCurrency request.mode conversion

/-- The questions of a run, in order. -/
def questions (request : AttributionRequest) (context : ValuationContext) (tokens : Tokens) :
    List Call :=
  (s.run request context tokens).2.1.calls.toList

omit [Quantity α] in
theorem asks_quotedInputs (request : AttributionRequest) (curve : CurveName) (on : Date) :
    (s.quotedInputs request curve on).Asks (quotedInputCalls request curve on) :=
  fun j => (run_quotedInputs s request curve on j).1

/-- What a run on a quoted curve does after its checks. -/
def afterChecks (request : AttributionRequest) (curve : CurveName) (nodes : List CurveNode)
    (currency : Currency) (vector : List α) : Work α (Attribution α) := do
  let fetched ← Work.inRange request.window.fetched?
  let conversion ← s.quotedConversion currency request.outputCurrency fetched
  let columns ← (nodes.zip vector).mapM fun (node, sensitivity) =>
    s.quotedColumn request curve fetched conversion node sensitivity
  return ⟨⟨columns⟩, request.outputCurrency.getD currency⟩

variable {s} {request : AttributionRequest} {curve : CurveName} {on : Date}

theorem asks_attributeQuoted_of_failed_check
    (failed : ¬ ∃ specification entry, s.PassesChecks request curve on specification entry) :
    (s.attributeQuoted request curve on).Asks (quotedInputCalls request curve on) := by
  rw [attributeQuoted_eq]
  apply (s.asks_quotedInputs request curve on).then_quiet
  intro j inputs answered
  obtain ⟨pair, sensitivities, specified⟩ := s.outcome_quotedInputs_eq_ok.mp answered
  apply (Work.Asks.matchCurve _ _).then_quiet
  intro j matched found
  obtain ⟨entry, first, rfl⟩ := SensitivityBundle.matched?_eq_some_iff.mp
    (SensitivityBundle.outcome_matchCurve_eq_ok.mp found)
  apply (Work.Asks.checkCount _ _ _).then_quiet
  intro j _ agree
  have count := (Work.outcome_checkCount_eq_ok.mp agree).symm
  exact absurd ⟨_, entry, pair, ⟨_, sensitivities, first⟩, specified, count⟩ failed

theorem asks_attributeQuoted_of_checks {specification : CurveSpecification}
    {entry : SensitivityEntry α} (checks : s.PassesChecks request curve on specification entry)
    {l : List Call}
    (rest : (s.afterChecks request curve specification.nodes entry.currency entry.vector).Asks l) :
    (s.attributeQuoted request curve on).Asks (quotedInputCalls request curve on ++ l) := by
  obtain ⟨bundle, sensitivities, first⟩ := checks.matched
  have answered (j : Journal α) : (s.quotedInputs request curve on).outcome j =
      .ok (bundle, specification) :=
    s.outcome_quotedInputs_eq_ok.mpr ⟨checks.paired, sensitivities, checks.specified⟩
  have found (j : Journal α) := SensitivityBundle.outcome_matchCurve_eq_ok (j := j).mpr
    (SensitivityBundle.matched?_eq_some_iff.mpr ⟨entry, first, rfl⟩)
  have agree (j : Journal α) : (Work.checkCount curve specification.nodes.length
      entry.vector.length).outcome j = .ok () :=
    Work.outcome_checkCount_eq_ok.mpr checks.count.symm
  rw [attributeQuoted_eq]
  apply (s.asks_quotedInputs request curve on).after answered
  apply (Work.Asks.matchCurve _ _).after found
  exact (Work.Asks.checkCount _ _ _).after agree rest

theorem asks_afterChecks_of_no_lead (leadless : request.window.fetched? = none)
    (nodes : List CurveNode) (currency : Currency) (vector : List α) :
    (s.afterChecks request curve nodes currency vector).Asks [] := by
  unfold afterChecks
  rw [leadless]
  exact .then_quiet (.inRange _) fun _ _ lead => nomatch lead

theorem asks_afterChecks_of_no_conversion {fetched : DateWindow}
    (lead : request.window.fetched? = some fetched) {currency : Currency}
    (unresolved : ¬ ∃ conversion,
      s.QuotedConversion currency fetched request.outputCurrency conversion)
    (nodes : List CurveNode) (vector : List α) :
    (s.afterChecks request curve nodes currency vector).Asks
      (s.quotedConversionCalls currency request.outputCurrency fetched) := by
  unfold afterChecks
  rw [lead]
  apply (Work.Asks.inRange _).after (fun _ => rfl)
  apply (s.asks_quotedConversion _ _ _).then_quiet
  intro j conversion found
  exact absurd ⟨conversion, s.outcome_quotedConversion_eq_ok.mp found⟩ unresolved

/-- After the checks the conversion is looked for, and then the nodes one after the other. -/
theorem asks_afterChecks_of_resolved {p : QuotedPlan α} (resolved : p.Resolved s request curve on) :
    ∃ requested, Reached (p.NodeReady s request) p.specification.nodes requested ∧
      (s.afterChecks request curve p.specification.nodes p.entry.currency p.entry.vector).Asks
        (s.quotedConversionCalls p.entry.currency request.outputCurrency p.fetched ++
          requested.flatMap (s.nodeCalls request p.fetched p.conversion)) := by
  have ready (q : CurveNode × α) (j : Journal α) :
      (∃ column, (s.quotedColumn request curve p.fetched p.conversion q.1 q.2).outcome j =
        .ok column) ↔ p.NodeReady s request q.1 := by
    simp only [s.outcome_quotedColumn_eq_ok, QuotedPlan.exists_nodePnl_iff]
  obtain ⟨reached, upto, asks⟩ := Work.Asks.mapM
    (fun q : CurveNode × α => s.asks_quotedColumn request curve p.fetched p.conversion q.1 q.2)
    ready (p.specification.nodes.zip p.entry.vector)
  refine ⟨reached.map (·.1), ?_, ?_⟩
  · have nodes := upto.map (f := Prod.fst)
    rwa [List.map_fst_zip (Nat.le_of_eq resolved.count.symm)] at nodes
  · unfold afterChecks
    rw [resolved.lead, List.flatMap_map]
    apply (Work.Asks.inRange _).after (fun _ => rfl)
    apply (s.asks_quotedConversion _ _ _).after
      (fun _ => s.outcome_quotedConversion_eq_ok.mpr resolved.conversion)
    exact asks.then_quiet fun _ _ _ => .pure _

theorem passesChecks_of_resolved {p : QuotedPlan α} (resolved : p.Resolved s request curve on) :
    s.PassesChecks request curve on p.specification p.entry where
  paired := resolved.pair
  matched := ⟨p.bundle, resolved.sensitivities, resolved.entry⟩
  specified := resolved.specification
  count := resolved.count

omit [Quantity α] in
theorem calls_replayDay (setup : ReplaySetup) (history : ImpliedHistory α) (day : Date)
    (j : Journal α) :
    (((s.replayDay setup history day).journal j).calls.toList = j.calls.toList ∧
        ∃ e, (s.replayDay setup history day).outcome j = .error e) ∨
      ((s.replayDay setup history day).journal j).calls.toList =
        j.calls.toList ++ [.impliedCurve setup.construction day] := by
  cases flag : j.cancelled with
  | true =>
      left
      rw [Work.journal, Work.outcome, run_replayDay_of_cancelled flag]
      exact ⟨rfl, _, rfl⟩
  | false =>
      right
      have asked : (s.askImpliedCurve setup.construction day).Asks
          [.impliedCurve setup.construction day] := by
        intro j
        rw [Work.journal, run_askImpliedCurve]
        exact Log.toList_push _ _
      rw [Work.journal, run_replayDay_of_live flag]
      exact asked.then_quiet (fun _ answer _ => asks_recordDay setup history day answer) j

omit [Quantity α] in
theorem exists_calls_replayFrom (setup : ReplaySetup) {last : Date} (n : Nat)
    (history : ImpliedHistory α) {day : Date} (inside : day ≤ last) (j : Journal α) :
    ∃ days, days <+: day.through last ∧
      ((s.replayFrom setup last n history day).journal j).calls.toList =
        j.calls.toList ++ days.map (.impliedCurve setup.construction) := by
  induction n generalizing history day j with
  | zero => exact ⟨[], List.nil_prefix, (List.append_nil _).symm⟩
  | succ n ih =>
      rw [replayFrom]
      cases follows : day.succ? with
      | none => exact ⟨[], List.nil_prefix, (List.append_nil _).symm⟩
      | some next =>
          have here := Date.singleton_prefix_through inside
          rw [Work.inRange, pure_bind]
          cases worked : (s.replayDay setup history day).outcome j with
          | error e =>
              rw [Work.journal_bind_of_error worked]
              rcases s.calls_replayDay setup history day j with ⟨calls, -⟩ | calls
              · exact ⟨[], List.nil_prefix, by rw [calls, List.map_nil, List.append_nil]⟩
              · exact ⟨[day], here, calls⟩
          | ok later =>
              rw [Work.journal_bind_of_ok worked]
              have calls := (s.calls_replayDay setup history day j).resolve_left
                (by simp [worked])
              split
              next more =>
                obtain ⟨days, walked, rest⟩ :=
                  ih later more ((s.replayDay setup history day).journal j)
                refine ⟨day :: days, ?_, ?_⟩
                · rw [Date.through_of_succ? follows more]
                  exact List.cons_prefix_cons.mpr ⟨rfl, walked⟩
                · rw [rest, calls, List.map_cons, List.append_assoc, List.singleton_append]
              next => exact ⟨[day], here, calls⟩

omit [Quantity α] in
theorem exists_calls_replay (setup : ReplaySetup) (window : DateWindow) (j : Journal α) :
    ∃ days, (days ≠ [] → ∃ fetched, window.fetched? = some fetched ∧ days <+: fetched.days) ∧
      (∀ history, (s.replay setup window).outcome j = .ok history →
        ∃ fetched, window.fetched? = some fetched ∧ days = fetched.days) ∧
      ((s.replay setup window).journal j).calls.toList =
        j.calls.toList ++ days.map (.impliedCurve setup.construction) := by
  cases ran : (s.replay setup window).outcome j with
  | ok history =>
      obtain ⟨fetched, lead, -, replayed⟩ := completes_of_replay ran
      exact ⟨fetched.days, fun _ => ⟨fetched, lead, List.prefix_rfl⟩,
        fun _ _ => ⟨fetched, lead, rfl⟩, replayed.calls⟩
  | error e =>
      rw [replay]
      cases lead : window.fetched? with
      | none =>
          refine ⟨[], fun some => absurd rfl some, ?_, (List.append_nil _).symm⟩
          intro history ok
          cases ok
      | some fetched =>
          obtain ⟨days, walked, calls⟩ :=
            s.exists_calls_replayFrom setup fetched.size .empty fetched.first_le_last j
          refine ⟨days, fun _ => ⟨fetched, rfl, walked⟩, ?_, calls⟩
          intro history ok
          cases ok

theorem asks_impliedInputs (request : AttributionRequest) (on : Date) :
    (s.impliedInputs request on).Asks (s.impliedInputCalls request on) := by
  unfold impliedInputs impliedInputCalls
  refine .ask (.ask ?_)
  cases request.window.fetched? with
  | none => exact .then_quiet (.inRange _) fun _ _ lead => nomatch lead
  | some fetched =>
      apply (Work.Asks.inRange _).after (fun _ => rfl)
      refine .then_quiet (.attempt (s.asks_pnlConversion _ _ _ _ _)) fun _ _ _ => ?_
      split
      · exact .pure _
      · exact .fail _

/-- Before it takes returns, a run on an implied curve asks for its inputs. If all of them are found
then it asks for days of the replay, and it gets done only if it asks for all of them. -/
theorem exists_calls_preparedTenors (request : AttributionRequest) (curve : CurveName)
    (construction : ConstructionName) (on : Date) (j : Journal α) :
    ∃ days, (days ≠ [] →
        ∃ fetched, s.HasImpliedInputs request on fetched ∧ days <+: fetched.days) ∧
      (∀ prepared, (s.preparedTenors request curve construction on).outcome j = .ok prepared →
        ∃ fetched, request.window.fetched? = some fetched ∧ days = fetched.days) ∧
      ((s.preparedTenors request curve construction on).journal j).calls.toList =
        j.calls.toList ++ s.impliedInputCalls request on ++
          days.map (.impliedCurve construction) := by
  have inputs := s.asks_impliedInputs request on j
  unfold preparedTenors
  cases found : (s.impliedInputs request on).outcome j with
  | error e =>
      refine ⟨[], fun some => absurd rfl some, ?_, ?_⟩
      · intro prepared ok
        rw [Work.outcome_bind_of_error found] at ok
        cases ok
      · rw [Work.journal_bind_of_error found, inputs, List.map_nil, List.append_nil]
  | ok answered =>
      obtain ⟨bundle, conversion⟩ := answered
      obtain ⟨paired, bundled, fetched, lead, converted⟩ :=
        s.outcome_impliedInputs_eq_ok.mp found
      obtain ⟨days, walked, finished, calls⟩ := s.exists_calls_replay { construction }
        request.window ((s.impliedInputs request on).journal j)
      refine ⟨days, ?_, ?_, ?_⟩
      · intro some
        obtain ⟨fetched', lead', inside⟩ := walked some
        rw [lead] at lead'
        cases lead'
        exact ⟨fetched, ⟨paired, ⟨bundle, bundled⟩, lead, ⟨conversion, converted⟩⟩, inside⟩
      · intro prepared ok
        rw [Work.outcome_bind_of_ok found] at ok
        obtain ⟨history, ran, -⟩ := Work.outcome_bind_eq_ok.mp ok
        exact finished history ran
      · rw [Work.journal_bind_of_ok found, ← inputs, ← calls]
        apply Work.calls_bind_of_quiet
        intro history _
        exact .then_quiet (.note _) fun _ _ _ => .then_quiet (.matchCurve _ _) fun _ _ _ =>
          .then_quiet (.checkCount _ _ _) fun _ _ _ => .pure _

theorem exists_calls_attributeImplied (request : AttributionRequest) (curve : CurveName)
    (construction : ConstructionName) (on : Date) (j : Journal α) :
    ∃ (days : List Date) (sizes : List Nat),
      ((s.attributeImplied request curve construction on).journal j).calls.toList =
        j.calls.toList ++ s.impliedInputCalls request on ++
          days.map (.impliedCurve construction) ++ sizes.map .returns ∧
      (days ≠ [] → ∃ fetched, s.HasImpliedInputs request on fetched ∧ days <+: fetched.days) ∧
      (sizes ≠ [] → ∃ p : ImpliedPlan α,
        p.Resolved s request curve construction on j.cancelled ∧ days = p.fetched.days) := by
  obtain ⟨days, walked, finished, calls⟩ :=
    s.exists_calls_preparedTenors request curve construction on j
  rw [attributeImplied_eq]
  cases ready : (s.preparedTenors request curve construction on).outcome j with
  | error e =>
      refine ⟨days, [], ?_, walked, fun some => absurd rfl some⟩
      rw [Work.journal_bind_of_error ready, calls, List.map_nil, List.append_nil]
  | ok answered =>
      obtain ⟨prepared, conversion⟩ := answered
      obtain ⟨p, resolved, -, -⟩ := resolved_of_preparedTenors ready
      obtain ⟨fetched, lead, all⟩ := finished _ ready
      rw [resolved.lead] at lead
      cases lead
      have asks (q : (Tenor × DateSeries α) × α) :=
        s.asks_impliedColumn request curve conversion q.1.1 q.1.2 q.2
      have ends (q : (Tenor × DateSeries α) × α) (j : Journal α) :
          (∃ column, (s.impliedColumn request curve conversion q.1.1 q.1.2 q.2).outcome j =
            .ok column) ↔
          ∃ column, (s.impliedColumn request curve conversion q.1.1 q.1.2 q.2).alone =
            .ok column := by
        rw [(s.blind_impliedColumn request curve conversion q.1.1 q.1.2 q.2).outcome_eq]
      obtain ⟨reached, -, columns⟩ := Work.Asks.mapM asks ends prepared
      rw [← List.map_eq_flatMap] at columns
      refine ⟨days, reached.map fun q => (q.1.2.trimTo request.window.first).size, ?_, walked, ?_⟩
      · rw [Work.journal_bind_of_ok ready, List.map_map, ← calls]
        exact columns.then_quiet (fun _ _ _ => .pure _) _
      · intro _
        exact ⟨p, resolved, all⟩

omit [Quantity α] in
theorem isAboutCurrencies_of_mem_nodeCalls {fetched : DateWindow}
    {conversion : Option (DateSeries α)} {node : CurveNode} {c : Call}
    (member : c ∈ s.nodeCalls request fetched conversion node) : c.isAboutCurrencies = false := by
  rcases List.mem_cons.mp member with rfl | member
  · rfl
  · cases returned : s.nodeHistory node fetched with
    | error e => simp [returned] at member
    | ok history =>
        simp only [returned, returnsCalls] at member
        split at member
        · rw [List.mem_singleton.mp member]
          rfl
        · simp at member

omit [Quantity α] in
theorem conversionNeeded_of_checks {specification : CurveSpecification}
    {entry : SensitivityEntry α} (checks : s.PassesChecks request curve on specification entry)
    (quoted : request.curve = .quoted curve)
    (native : ∀ output, request.outputCurrency = some output → s.IsNative request on output) :
    conversionNeeded entry.currency request.outputCurrency = none := by
  obtain ⟨bundle, sensitivities, first⟩ := checks.matched
  apply conversionNeeded_eq_none.mpr
  cases asked : request.outputCurrency with
  | none => exact .inl rfl
  | some output =>
      have same := native output asked
      simp only [IsNative, quoted] at same
      have counts := SensitivityBundle.matched?_eq_some_iff.mpr ⟨entry, first, rfl⟩
      exact .inr (congrArg some (same _ _ sensitivities counts).symm)

omit [Quantity α] in
theorem impliedInputCalls_of_native {construction : ConstructionName}
    (implied : request.curve = .implied curve construction)
    (native : ∀ output, request.outputCurrency = some output → s.IsNative request on output) :
    s.impliedInputCalls request on = sharedCalls request on := by
  have none : conversionNeeded request.curveCurrency request.outputCurrency = none := by
    apply conversionNeeded_eq_none.mpr
    cases asked : request.outputCurrency with
    | none => exact .inl rfl
    | some output =>
        have same := native output asked
        simp only [IsNative, implied] at same
        exact .inr (congrArg some same)
  simp only [impliedInputCalls, pnlConversionCalls, none]
  cases request.window.fetched? with
  | none => exact List.append_nil _
  | some fetched => exact List.append_nil _

theorem questions_eq (s : Sources α) (request : AttributionRequest) (context : ValuationContext)
    (tokens : Tokens) : s.questions request context tokens =
      ((match request.curve with
        | .quoted curve => s.attributeQuoted request curve context.date
        | .implied curve construction =>
          s.attributeImplied request curve construction context.date).journal
        (.blank (tokens.isCancelled context.token))).calls.toList := by
  have told (w : Work α (Attribution α)) (e : Attribution α → Event α) (j : Journal α) :
      ((do let done ← w; Work.note (e done); return done).journal j).calls.toList =
        (w.journal j).calls.toList :=
    Work.calls_bind_of_quiet fun _ _ => .then_quiet (.note _) fun _ _ _ => .pure _
  have left : s.questions request context tokens = ((s.attribution request context.date).journal
      (.blank (tokens.isCancelled context.token))).calls.toList := rfl
  rw [left, attribution]
  cases request.curve with
  | quoted curve => exact told _ _ _
  | implied curve construction => exact told _ _ _

theorem questions_of_asks {context : ValuationContext} {l : List Call}
    (quoted : request.curve = .quoted curve)
    (asks : (s.attributeQuoted request curve context.date).Asks l) (tokens : Tokens) :
    s.questions request context tokens = l := by
  rw [questions_eq, quoted]
  exact asks _

theorem exists_requested {p : QuotedPlan α} {context : ValuationContext}
    (quoted : request.curve = .quoted curve) (resolved : p.Resolved s request curve context.date)
    (tokens : Tokens) :
    ∃ requested, Reached (p.NodeReady s request) p.specification.nodes requested ∧
      s.questions request context tokens = quotedInputCalls request curve context.date ++
        (s.quotedConversionCalls p.entry.currency request.outputCurrency p.fetched ++
          requested.flatMap (s.nodeCalls request p.fetched p.conversion)) := by
  obtain ⟨requested, reached, asks⟩ := asks_afterChecks_of_resolved resolved
  have whole := asks_attributeQuoted_of_checks (passesChecks_of_resolved resolved) asks
  exact ⟨requested, reached, questions_of_asks quoted whole tokens⟩

theorem questions_of_no_lead {context : ValuationContext} (quoted : request.curve = .quoted curve)
    (leadless : ∀ specification entry,
      s.PassesChecks request curve context.date specification entry →
        request.window.fetched? = none) (tokens : Tokens) :
    s.questions request context tokens = quotedInputCalls request curve context.date := by
  by_cases passed : ∃ specification entry,
    s.PassesChecks request curve context.date specification entry
  · obtain ⟨specification, entry, checks⟩ := passed
    have asks := asks_attributeQuoted_of_checks checks
      (asks_afterChecks_of_no_lead (leadless specification entry checks) _ _ _)
    rw [List.append_nil] at asks
    exact questions_of_asks quoted asks tokens
  · exact questions_of_asks quoted (asks_attributeQuoted_of_failed_check passed) tokens

theorem filter_questions_of_native {context : ValuationContext}
    (native : ∀ output, request.outputCurrency = some output →
      s.IsNative request context.date output) (tokens : Tokens) :
    (s.questions request context tokens).filter Call.isAboutCurrencies =
      [.pair request.position.pair] := by
  have inputs (curve : CurveName) : (quotedInputCalls request curve context.date).filter
      Call.isAboutCurrencies = [.pair request.position.pair] := rfl
  cases identity : request.curve with
  | quoted curve =>
      by_cases ends : ∀ specification entry,
        s.PassesChecks request curve context.date specification entry →
          request.window.fetched? = none
      · rw [questions_of_no_lead identity ends, inputs]
      · push Not at ends
        obtain ⟨specification, entry, checks, lead⟩ := ends
        obtain ⟨fetched, lead⟩ := Option.ne_none_iff_exists'.mp lead
        obtain ⟨bundle, sensitivities, first⟩ := checks.matched
        have unneeded := conversionNeeded_of_checks checks identity native
        have unconverted : s.QuotedConversion entry.currency fetched request.outputCurrency none :=
          (s.outcome_quotedConversion_eq_ok (j := .blank false)).mp (by
            rw [quotedConversion, unneeded]
            rfl)
        obtain ⟨requested, -, questions⟩ := exists_requested (p := ⟨bundle, specification, entry,
          fetched, none⟩) identity ⟨checks.paired, sensitivities, checks.specified, first,
          checks.count, lead, unconverted⟩ tokens
        have nodes : (requested.flatMap (s.nodeCalls request fetched none)).filter
            Call.isAboutCurrencies = [] := by
          simp only [List.filter_eq_nil_iff, List.mem_flatMap]
          rintro c ⟨node, -, member⟩
          simp [isAboutCurrencies_of_mem_nodeCalls member]
        rw [questions, quotedConversionCalls, unneeded, List.nil_append, List.filter_append, inputs,
          nodes, List.append_nil]
  | implied curve construction =>
      obtain ⟨days, sizes, calls, -⟩ := s.exists_calls_attributeImplied request curve construction
        context.date (.blank (tokens.isCancelled context.token))
      have others : (days.map (Call.impliedCurve construction) ++ sizes.map Call.returns).filter
          Call.isAboutCurrencies = [] := by
        simp only [List.filter_eq_nil_iff, List.mem_append, List.mem_map]
        rintro c (⟨day, -, rfl⟩ | ⟨size, -, rfl⟩)
        · exact Bool.false_ne_true
        · exact Bool.false_ne_true
      rw [questions_eq, identity]
      dsimp only
      rw [calls, impliedInputCalls_of_native identity native, List.append_assoc,
        List.filter_append, others, List.append_nil]
      rfl

/-- A run on a quoted curve asks for its inputs, and for nothing else unless all of them are
answered and the counts agree. It then asks for the conversion if one is needed, and if that
resolves for one node after the other, up to the first that is not ready. If the fetched window is
out of range it asks for neither. A run on an implied curve asks for days only if its inputs are
found, and for returns only if the replay is done and the counts agree. A run that needs no
conversion asks for one pair and for no rates. -/
theorem run_asks_in_order (s : Sources α) (request : AttributionRequest)
    (context : ValuationContext) (tokens : Tokens) :
    (∀ curve, request.curve = .quoted curve →
      ((∀ specification entry, s.PassesChecks request curve context.date specification entry →
          request.window.fetched? = none) →
        s.questions request context tokens = quotedInputCalls request curve context.date) ∧
      (∀ specification entry fetched,
        s.PassesChecks request curve context.date specification entry →
        request.window.fetched? = some fetched →
        (¬ ∃ conversion,
          s.QuotedConversion entry.currency fetched request.outputCurrency conversion) →
        s.questions request context tokens = quotedInputCalls request curve context.date ++
          s.quotedConversionCalls entry.currency request.outputCurrency fetched) ∧
      ∀ p : QuotedPlan α, p.Resolved s request curve context.date →
        ∃ requested, requested <+: p.specification.nodes ∧
          (∀ (i : Nat) node, requested[i]? = some node ↔ p.specification.nodes[i]? = some node ∧
            ∀ k earlier, k < i → p.specification.nodes[k]? = some earlier →
              p.NodeReady s request earlier) ∧
          s.questions request context tokens = quotedInputCalls request curve context.date ++
            (s.quotedConversionCalls p.entry.currency request.outputCurrency p.fetched ++
              requested.flatMap (s.nodeCalls request p.fetched p.conversion))) ∧
    (∀ curve construction, request.curve = .implied curve construction →
      ∃ (days : List Date) (sizes : List Nat),
        s.questions request context tokens = s.impliedInputCalls request context.date ++
          days.map (.impliedCurve construction) ++ sizes.map .returns ∧
        (days ≠ [] →
          ∃ fetched, s.HasImpliedInputs request context.date fetched ∧ days <+: fetched.days) ∧
        (sizes ≠ [] → ∃ p : ImpliedPlan α,
          p.Resolved s request curve construction context.date
            (tokens.isCancelled context.token) ∧ days = p.fetched.days)) ∧
    ((∀ output, request.outputCurrency = some output → s.IsNative request context.date output) →
      (s.questions request context tokens).filter Call.isAboutCurrencies =
        [.pair request.position.pair]) := by
  refine ⟨?_, ?_, fun native => filter_questions_of_native native tokens⟩
  · intro curve quoted
    refine ⟨fun leadless => questions_of_no_lead quoted leadless tokens, ?_, ?_⟩
    · intro specification entry fetched checks lead unresolved
      have asks := asks_attributeQuoted_of_checks checks
        (asks_afterChecks_of_no_conversion lead unresolved _ _)
      exact questions_of_asks quoted asks tokens
    · intro p resolved
      obtain ⟨requested, reached, questions⟩ := exists_requested quoted resolved tokens
      exact ⟨requested, reached.initial, fun _ _ => reached.getElem?_iff, questions⟩
  · intro curve construction implied
    obtain ⟨days, sizes, calls, walked, finished⟩ := s.exists_calls_attributeImplied request curve
      construction context.date (.blank (tokens.isCancelled context.token))
    refine ⟨days, sizes, ?_, walked, finished⟩
    rw [questions_eq, implied]
    exact calls

/-- A euro curve of three nodes. The second has no history. -/
def brokenDeposits : Sources Float :=
  { euroDeposits with
    sensitivities := fun _ _ => .ok ⟨[⟨"EUR-OIS", .eur, [10.0, 20.0, 30.0]⟩]⟩
    specification := fun curve _ =>
      .ok ⟨curve, [⟨"EUR3M", ⟨.months, 3⟩, none⟩, ⟨"EUR6M", ⟨.months, 6⟩, none⟩,
        ⟨"EUR1Y", ⟨.years, 1⟩, none⟩]⟩
    nodeHistory := fun node window =>
      if node.key = "EUR6M" then .error ⟨.notFound, "EUR6M"⟩
      else euroDeposits.nodeHistory node window
    fxHistory := fun _ _ => .ok ⟨[(.friday, 1.0), (.monday, 1.25)], by decide⟩ }

def brokenPlan : QuotedPlan Float :=
  { bundle := ⟨[⟨"EUR-OIS", .eur, [10.0, 20.0, 30.0]⟩]⟩
    specification := ⟨"EUR-OIS", [⟨"EUR3M", ⟨.months, 3⟩, none⟩, ⟨"EUR6M", ⟨.months, 6⟩, none⟩,
      ⟨"EUR1Y", ⟨.years, 1⟩, none⟩]⟩
    entry := ⟨"EUR-OIS", .eur, [10.0, 20.0, 30.0]⟩
    fetched := weekToMonday
    conversion := (brokenDeposits.fxHistory ⟨.eur, .usd⟩ weekToMonday).toOption }

theorem resolved_brokenPlan :
    brokenPlan.Resolved brokenDeposits mondayInDollars "EUR-OIS" .monday where
  pair := ⟨_, rfl⟩
  sensitivities := rfl
  specification := rfl
  entry := rfl
  count := rfl
  lead := by decide
  conversion := .needed (by decide) ⟨⟨.eur, .usd⟩, _, rfl, rfl, rfl⟩

theorem nodeReady_brokenPlan : brokenPlan.NodeReady brokenDeposits mondayInDollars
    ⟨"EUR3M", ⟨.months, 3⟩, none⟩ := by
  refine ⟨_, rfl, ?_, fun _ _ => ⟨_, rfl⟩⟩
  rintro _ ⟨⟩
  decide

theorem run_asks_brokenDeposits :
    mondayInDollars.curve = .quoted "EUR-OIS" ∧
      brokenDeposits.questions mondayInDollars ⟨.monday, ⟨0⟩⟩ .none =
        [.pair mondayInDollars.position.pair, .sensitivities "FXF-1" .monday,
          .specification "EUR-OIS" .monday, .pair (.of .eur .usd),
          .fxHistory ⟨.eur, .usd⟩ weekToMonday, .nodeHistory "EUR3M" weekToMonday, .returns 2,
          .nodeHistory "EUR6M" weekToMonday] := by
  obtain ⟨requested, -, exactly, questions⟩ := ((run_asks_in_order brokenDeposits mondayInDollars
    ⟨.monday, ⟨0⟩⟩ .none).1 "EUR-OIS" rfl).2.2 brokenPlan resolved_brokenPlan
  have unready : ¬ brokenPlan.NodeReady brokenDeposits mondayInDollars
      ⟨"EUR6M", ⟨.months, 6⟩, none⟩ := by
    rintro ⟨history, returned, -⟩
    cases returned
  have upto : requested = [⟨"EUR3M", ⟨.months, 3⟩, none⟩, ⟨"EUR6M", ⟨.months, 6⟩, none⟩] := by
    apply List.ext_getElem?
    intro i
    apply Option.ext
    intro node
    rw [exactly]
    rcases i with _ | _ | i
    · simp [brokenPlan]
    · constructor
      · exact And.left
      · intro here
        refine ⟨here, ?_⟩
        intro k earlier before place
        cases Nat.lt_one_iff.mp before
        cases place
        exact nodeReady_brokenPlan
    · constructor
      · rintro ⟨-, all⟩
        exact absurd (all 1 _ (by omega) rfl) unready
      · intro here
        cases here
  rw [questions, upto]
  exact ⟨rfl, rfl⟩

/-- A dollar curve of one node, all of whose questions are answered. -/
def dollarDeposit : Sources Float :=
  { emptyCurve with
    sensitivities := fun _ _ => .ok ⟨[⟨"USD-OIS", .usd, [10.0]⟩]⟩
    specification := fun curve _ => .ok ⟨curve, [⟨"USD1M", ⟨.months, 1⟩, none⟩]⟩
    nodeHistory := fun _ _ => .ok .empty }

/-- It is not enough that the checks pass and that no conversion is needed: in the first week of
the calendar the window has no lead, and the run aborts before it asks for the first node. -/
theorem not_forall_first_node_asked :
    ¬ ∀ (s : Sources Float) (request : AttributionRequest) (curve : CurveName)
      (context : ValuationContext) (tokens : Tokens) (specification : CurveSpecification)
      (entry : SensitivityEntry Float) (node : CurveNode),
      request.curve = .quoted curve →
      s.PassesChecks request curve context.date specification entry →
      request.outputCurrency = none → specification.nodes.head? = some node →
      ∃ window, .nodeHistory node.key window ∈ s.questions request context tokens := by
  intro asked
  have checks : dollarDeposit.PassesChecks firstWeek "USD-OIS" .monday
      ⟨"USD-OIS", [⟨"USD1M", ⟨.months, 1⟩, none⟩]⟩ ⟨"USD-OIS", .usd, [10.0]⟩ :=
    ⟨⟨_, rfl⟩, ⟨_, rfl, rfl⟩, rfl, rfl⟩
  obtain ⟨window, member⟩ :=
    asked dollarDeposit firstWeek "USD-OIS" ⟨.monday, ⟨0⟩⟩ .none _ _ _ rfl checks rfl rfl
  have questions : dollarDeposit.questions firstWeek ⟨.monday, ⟨0⟩⟩ .none =
      [.pair firstWeek.position.pair, .sensitivities "FXF-1" .monday,
        .specification "USD-OIS" .monday] := rfl
  rw [questions] at member
  simp at member

end Sources

end CurvePnl
