import CurvePnl.Proofs.CallOrder

/-! # Empty sensitivities

A run that gets as far as the matching has a bundle, and it knows how many nodes its curve has. Only
a curve without an entry in the bundle is told to be missing there. An empty vector is a vector like
any other: it has the wrong count if there are nodes, and otherwise the run goes on without columns.
-/

namespace CurvePnl

variable {α : Type} [Quantity α]

/-- Why a curve of so many nodes is not matched. -/
inductive MatchingError (bundle : SensitivityBundle α) (curve : CurveName) (nodes : Nat) :
    AttributionError → Prop where
  | missing (absent : bundle.forCurve curve = []) :
      MatchingError bundle curve nodes (.missingSensitivities curve)
  | count {entry} (first : (bundle.forCurve curve).head? = some entry)
      (different : nodes ≠ entry.vector.length) :
      MatchingError bundle curve nodes (.countMismatch curve nodes entry.vector.length)

namespace Sources

/-- A run has all that the matching needs: this bundle, and a curve of so many nodes. -/
inductive ReachesMatching (s : Sources α) (request : AttributionRequest) (on : Date)
    (cancelled : Bool) : SensitivityBundle α → Nat → Prop where
  | quoted {curve pair bundle specification} (kind : request.curve = .quoted curve)
      (paired : s.pair request.position.pair = .ok pair)
      (bundled : s.sensitivities request.position on = .ok bundle)
      (specified : s.specification curve on = .ok specification) :
      ReachesMatching s request on cancelled bundle specification.nodes.length
  | implied {curve construction pair bundle fetched conversion tenors}
      (kind : request.curve = .implied curve construction)
      (paired : s.pair request.position.pair = .ok pair)
      (bundled : s.sensitivities request.position on = .ok bundle)
      (lead : request.window.fetched? = some fetched)
      (converted : s.PnlConversion request.curveCurrency fetched on request.outputCurrency
        request.mode conversion)
      (completes : s.Completes construction fetched cancelled) (ascending : Ascending tenors)
      (reported : ∀ tenor, tenor ∈ tenors ↔ s.Reported construction fetched.days tenor) :
      ReachesMatching s request on cancelled bundle tenors.length

end Sources

theorem QuotedPlan.Resolved.reachesMatching {p : QuotedPlan α} {s : Sources α}
    {request : AttributionRequest} {curve : CurveName} {on : Date}
    (resolved : p.Resolved s request curve on) (kind : request.curve = .quoted curve)
    (cancelled : Bool) :
    s.ReachesMatching request on cancelled p.bundle p.specification.nodes.length := by
  obtain ⟨pair, paired⟩ := resolved.pair
  exact .quoted kind paired resolved.sensitivities resolved.specification

theorem ImpliedPlan.Resolved.reachesMatching {p : ImpliedPlan α} {s : Sources α}
    {request : AttributionRequest} {curve : CurveName} {construction : ConstructionName}
    {on : Date} {cancelled : Bool}
    (resolved : p.Resolved s request curve construction on cancelled)
    (kind : request.curve = .implied curve construction) :
    s.ReachesMatching request on cancelled p.bundle p.tenors.length := by
  obtain ⟨pair, paired⟩ := resolved.pair
  exact .implied kind paired resolved.sensitivities resolved.lead resolved.conversion
    resolved.replay resolved.ascending resolved.reported

namespace Sources

/-- The matching of a curve of so many nodes, and what is done with its sensitivities. -/
def matchThen (bundle : SensitivityBundle α) (curve : CurveName) (nodes : Nat)
    (rest : MatchedSensitivity α → Work α (Attribution α)) : Work α (Attribution α) := do
  let matched ← bundle.matchCurve curve
  Work.checkCount curve nodes matched.vector.length
  rest matched

variable {bundle : SensitivityBundle α} {curve : CurveName} {nodes : Nat}
  {rest : MatchedSensitivity α → Work α (Attribution α)} {j : Journal α} {e : AttributionError}

omit [Quantity α] in
theorem outcome_matchThen_of_error (wrong : MatchingError bundle curve nodes e) :
    (matchThen bundle curve nodes rest).outcome j = .error (.failed e) := by
  cases wrong with
  | missing absent =>
      have unmatched := SensitivityBundle.matched?_eq_none_iff.mpr absent
      apply Work.outcome_bind_of_error
      rw [SensitivityBundle.matchCurve, unmatched, Work.outcome_fail]
  | count first different =>
      have found := SensitivityBundle.matched?_eq_some_iff.mpr ⟨_, first, rfl⟩
      rw [matchThen, Work.outcome_bind_of_ok (SensitivityBundle.outcome_matchCurve_eq_ok.mpr found)]
      apply Work.outcome_bind_of_error
      rw [Work.checkCount, if_neg different, Work.outcome_fail]

omit [Quantity α] in
theorem fails_matchThen (others : ∀ m, (rest m).Fails AttributionError.Unmatched) :
    (matchThen bundle curve nodes rest).Fails fun e =>
      e.Unmatched ∨ MatchingError bundle curve nodes e := by
  refine .bind (fails_matchCurve bundle curve fun absent => ?_) fun _ m found =>
    .bind (.checkCount fun different => ?_) fun _ _ _ => ?_
  · exact .inr (.missing (SensitivityBundle.matched?_eq_none_iff.mp absent))
  · obtain ⟨entry, first, rfl⟩ := SensitivityBundle.matched?_eq_some_iff.mp
      (SensitivityBundle.outcome_matchCurve_eq_ok.mp found)
    exact .inr (.count first different)
  · exact fun j e failed => .inl (others m j e failed)

theorem attributeQuoted_eq_matchThen (s : Sources α) (request : AttributionRequest)
    (curve : CurveName) (on : Date) :
    s.attributeQuoted request curve on = (do
      let (bundle, specification) ← s.quotedInputs request curve on
      matchThen bundle curve specification.nodes.length fun m =>
        s.afterChecks request curve specification.nodes m.currency m.vector) :=
  attributeQuoted_eq s request curve on

/-- What a run on an implied curve does after its checks. -/
def afterReplay (s : Sources α) (request : AttributionRequest) (curve : CurveName)
    (conversion : Conversion α) (buckets : List (Tenor × DateSeries α)) (vector : List α) :
    Work α (Attribution α) := do
  let columns ← (buckets.zip vector).mapM fun ((tenor, rates), sensitivity) =>
    s.impliedColumn request curve conversion tenor rates sensitivity
  return ⟨⟨columns⟩, request.outputCurrency.getD request.curveCurrency⟩

theorem attributeImplied_eq_matchThen (s : Sources α) (request : AttributionRequest)
    (curve : CurveName) (construction : ConstructionName) (on : Date) :
    s.attributeImplied request curve construction on = (do
      let (bundle, conversion) ← s.impliedInputs request on
      let history ← s.replay { construction } request.window
      Work.note (.historyReplayed curve history.builtDays history.skippedDays.length)
      matchThen bundle curve history.buckets.sortedSeries.length fun m =>
        s.afterReplay request curve conversion history.buckets.sortedSeries m.vector) :=
  s.attributeImplied_eq_columns request curve construction on

theorem fails_afterChecks (s : Sources α) (request : AttributionRequest) (curve : CurveName)
    (nodes : List CurveNode) (currency : Currency) (vector : List α) :
    (s.afterChecks request curve nodes currency vector).Fails AttributionError.Unmatched := by
  have covers := s.coversSteps_unmatched
  refine .bind (.inRange _) fun _ fetched _ =>
    .bind (fails_quotedConversion covers _ _ _) fun _ conversion _ => ?_
  exact .bind (.mapM (fun q : CurveNode × α =>
    fails_quotedColumn covers request curve fetched conversion q.1 q.2) _) fun _ _ _ => .pure _

theorem fails_afterReplay (s : Sources α) (request : AttributionRequest) (curve : CurveName)
    (conversion : Conversion α) (buckets : List (Tenor × DateSeries α)) (vector : List α) :
    (s.afterReplay request curve conversion buckets vector).Fails AttributionError.Unmatched :=
  .bind (.mapM (fun q : (Tenor × DateSeries α) × α =>
    fails_impliedColumn s.coversSteps_unmatched request curve conversion q.1.1 q.1.2 q.2) _)
    fun _ _ _ => .pure _

variable {s : Sources α} {request : AttributionRequest} {context : ValuationContext}
  {tokens : Tokens} {a : Attribution α}

omit [Quantity α] in
theorem flag_blank (cancelled : Bool) :
    (Journal.blank cancelled : Journal α).cancelled = cancelled := rfl

theorem run_of_matchingError
    (reached : s.ReachesMatching request context.date (tokens.isCancelled context.token) bundle
      nodes)
    (wrong : MatchingError bundle request.curve.name nodes e) :
    (s.run request context tokens).1 = .error (.failed e) := by
  rw [run_fst_eq]
  rw [← flag_blank (α := α) (tokens.isCancelled context.token)] at reached
  generalize Journal.blank (tokens.isCancelled context.token) = j at reached ⊢
  cases reached with
  | quoted kind paired bundled specified =>
      rw [kind] at wrong ⊢
      dsimp only
      have inputs := (s.outcome_quotedInputs_eq_ok (j := j)).mpr ⟨⟨_, paired⟩, bundled, specified⟩
      rw [attributeQuoted_eq_matchThen, Work.outcome_bind_of_ok inputs]
      exact outcome_matchThen_of_error wrong
  | implied kind paired bundled lead converted completes ascending reported =>
      rw [kind] at wrong ⊢
      dsimp only
      have inputs := (s.outcome_impliedInputs_eq_ok (j := j)).mpr
        ⟨⟨_, paired⟩, bundled, _, lead, converted⟩
      -- The inputs leave the flag alone, so the replay begins with that of the run.
      rw [← s.keepsFlag_impliedInputs request context.date j] at completes
      obtain ⟨history, ran, -, rfl⟩ := exists_history lead completes ascending reported
      rw [List.length_map] at wrong
      rw [attributeImplied_eq_matchThen, Work.outcome_bind_of_ok inputs,
        Work.outcome_bind_of_ok ran, Work.outcome_bind_of_ok (Work.outcome_note _ _)]
      exact outcome_matchThen_of_error wrong

theorem unmatched_or_matchingError
    (failed : (s.run request context tokens).1 = .error (.failed e)) :
    e.Unmatched ∨ ∃ bundle nodes,
      s.ReachesMatching request context.date (tokens.isCancelled context.token) bundle nodes ∧
        MatchingError bundle request.curve.name nodes e := by
  have covers := coversInputs_unmatched s request context.date
  rw [run_fst_eq] at failed
  rw [← flag_blank (α := α) (tokens.isCancelled context.token)]
  generalize Journal.blank (tokens.isCancelled context.token) = j at failed ⊢
  cases kind : request.curve with
  | quoted curve =>
      rw [kind] at failed
      dsimp only at failed
      rw [attributeQuoted_eq_matchThen] at failed
      rcases Work.outcome_bind_eq_error.mp failed with
        failed | ⟨⟨bundle, specification⟩, ok, failed⟩
      · exact .inl (fails_quotedInputs covers curve _ _ failed)
      · obtain ⟨⟨pair, paired⟩, bundled, specified⟩ := s.outcome_quotedInputs_eq_ok.mp ok
        refine (fails_matchThen (fun m => ?_) _ _ failed).imp_right fun wrong => ?_
        · exact fails_afterChecks s request curve _ _ _
        · exact ⟨bundle, _, .quoted kind paired bundled specified, wrong⟩
  | implied curve construction =>
      rw [kind] at failed
      dsimp only at failed
      rw [attributeImplied_eq_matchThen] at failed
      rcases Work.outcome_bind_eq_error.mp failed with
        failed | ⟨⟨bundle, conversion⟩, ok, failed⟩
      · exact .inl (fails_impliedInputs covers _ _ failed)
      rcases Work.outcome_bind_eq_error.mp failed with failed | ⟨history, ran, failed⟩
      · exact .inl (fails_replay covers.toCoversSteps _ _ _ _ failed)
      rw [Work.outcome_bind_of_ok (Work.outcome_note _ _)] at failed
      obtain ⟨⟨pair, paired⟩, bundled, fetched, lead, converted⟩ :=
        s.outcome_impliedInputs_eq_ok.mp ok
      obtain ⟨fetched', lead', completes, replayed⟩ := completes_of_replay ran
      rw [lead] at lead'
      cases lead'
      rw [s.keepsFlag_impliedInputs] at completes
      refine (fails_matchThen (fun m => ?_) _ _ failed).imp_right fun wrong => ?_
      · exact fails_afterReplay s request curve _ _ _
      · rw [← List.length_map (·.1)] at wrong
        exact ⟨bundle, _, .implied kind paired bundled lead converted completes
          replayed.ascending_tenors fun _ => replayed.mem_tenors, wrong⟩

theorem exists_entry_of_ok (ok : (s.run request context tokens).1 = .ok a) :
    ∃ bundle entry,
      s.ReachesMatching request context.date (tokens.isCancelled context.token) bundle
        a.matrix.size ∧
      (bundle.forCurve request.curve.name).head? = some entry ∧
      entry.vector.length = a.matrix.size := by
  rw [run_fst_eq_ok] at ok
  cases kind : request.curve with
  | quoted curve =>
      rw [kind] at ok
      obtain ⟨p, resolved, -, worked⟩ := s.outcome_attributeQuoted_eq_ok.mp ok
      have size : a.matrix.size = p.specification.nodes.length :=
        ((Work.forall₂_zip_iff resolved.count.symm).mp worked).1
      rw [size, ← resolved.count]
      refine ⟨p.bundle, p.entry, ?_, resolved.entry, rfl⟩
      rw [resolved.count]
      exact resolved.reachesMatching kind _
  | implied curve construction =>
      rw [kind] at ok
      obtain ⟨p, resolved, -, worked⟩ := s.outcome_attributeImplied_eq_ok.mp ok
      have size : a.matrix.size = p.tenors.length :=
        ((Work.forall₂_zip_iff resolved.count.symm).mp worked).1
      rw [size, ← resolved.count]
      refine ⟨p.bundle, p.entry, ?_, resolved.entry, rfl⟩
      rw [resolved.count]
      exact resolved.reachesMatching kind

/-- A curve without nodes and sensitivities has a result without columns, unless the conversion of a
quoted curve does not resolve. -/
theorem exists_run_without_columns_iff {entry : SensitivityEntry α}
    (reached : s.ReachesMatching request context.date (tokens.isCancelled context.token) bundle 0)
    (first : (bundle.forCurve request.curve.name).head? = some entry) (empty : entry.vector = []) :
    (∃ a, (s.run request context tokens).1 = .ok a ∧ a.matrix.columns = []) ↔
      ∀ curve, request.curve = .quoted curve → ∃ fetched conversion,
        request.window.fetched? = some fetched ∧
          s.QuotedConversion entry.currency fetched request.outputCurrency conversion := by
  simp only [run_fst_eq_ok]
  generalize noNodes : 0 = nodes at reached
  cases reached with
  | @quoted _ _ _ specification kind paired bundled specified =>
      rw [kind, CurveIdentity.name] at first
      simp only [kind, outcome_attributeQuoted_eq_ok]
      constructor
      · rintro ⟨a, ⟨p, resolved, -⟩, -⟩ _ ⟨⟩
        have sensitivities := resolved.sensitivities
        rw [bundled] at sensitivities
        cases sensitivities
        have entry := resolved.entry
        rw [first] at entry
        cases entry
        exact ⟨p.fetched, p.conversion, resolved.lead, resolved.conversion⟩
      · intro converts
        obtain ⟨fetched, conversion, lead, converted⟩ := converts _ rfl
        have count : entry.vector.length = specification.nodes.length := by
          rw [empty, ← noNodes, List.length_nil]
        have resolved : QuotedPlan.Resolved ⟨bundle, specification, entry, fetched, conversion⟩ s
            request _ context.date :=
          ⟨⟨_, paired⟩, bundled, specified, first, count, lead, converted⟩
        refine ⟨⟨⟨[]⟩, _⟩, ⟨_, resolved, rfl, ?_⟩, rfl⟩
        dsimp only
        rw [empty, List.zip_nil_right]
        exact .nil
  | @implied _ construction _ _ fetched conversion tenors kind paired bundled lead converted
      completes ascending reported =>
      rw [kind, CurveIdentity.name] at first
      simp only [kind, outcome_attributeImplied_eq_ok]
      apply iff_of_true
      · have count : entry.vector.length = tenors.length := by
          rw [empty, ← noNodes, List.length_nil]
        have resolved : ImpliedPlan.Resolved ⟨bundle, entry, fetched, conversion, tenors⟩ s request
            _ construction context.date (tokens.isCancelled context.token) :=
          ⟨⟨_, paired⟩, bundled, lead, converted, completes, first, ascending, reported, count⟩
        refine ⟨⟨⟨[]⟩, _⟩, ⟨_, resolved, rfl, ?_⟩, rfl⟩
        dsimp only
        rw [empty, List.zip_nil_right]
        exact .nil
      · intro curve quoted
        cases quoted

/-- A successful run matched one sensitivity per column. A curve is told to be missing exactly if
the run gets to the matching and finds no entry for it. An entry without sensitivities has the wrong
count if the curve has nodes. Otherwise the run succeeds without columns, if only the conversion of
a quoted curve resolves. -/
theorem run_tells_absent_sensitivities (s : Sources α) (request : AttributionRequest)
    (context : ValuationContext) (tokens : Tokens) :
    (∀ a, (s.run request context tokens).1 = .ok a → ∃ bundle entry,
      s.ReachesMatching request context.date (tokens.isCancelled context.token) bundle
        a.matrix.size ∧
      (bundle.forCurve request.curve.name).head? = some entry ∧
      entry.vector.length = a.matrix.size) ∧
    (∀ curve, (s.run request context tokens).1 = .error (.failed (.missingSensitivities curve)) ↔
      curve = request.curve.name ∧ ∃ bundle nodes,
        s.ReachesMatching request context.date (tokens.isCancelled context.token) bundle nodes ∧
        bundle.forCurve request.curve.name = []) ∧
    ∀ bundle nodes entry,
      s.ReachesMatching request context.date (tokens.isCancelled context.token) bundle nodes →
      (bundle.forCurve request.curve.name).head? = some entry → entry.vector = [] →
      (nodes ≠ 0 → (s.run request context tokens).1 =
        .error (.failed (.countMismatch request.curve.name nodes 0))) ∧
      (nodes = 0 → ((∃ a, (s.run request context tokens).1 = .ok a ∧ a.matrix.columns = []) ↔
        ∀ curve, request.curve = .quoted curve → ∃ fetched conversion,
          request.window.fetched? = some fetched ∧
            s.QuotedConversion entry.currency fetched request.outputCurrency conversion)) := by
  refine ⟨fun a => exists_entry_of_ok, ?_, ?_⟩
  · intro curve
    constructor
    · intro failed
      rcases unmatched_or_matchingError failed with impossible | ⟨bundle, nodes, reached, wrong⟩
      · cases impossible
      · cases wrong with
        | missing absent => exact ⟨rfl, bundle, nodes, reached, absent⟩
    · rintro ⟨rfl, bundle, nodes, reached, absent⟩
      exact run_of_matchingError reached (.missing absent)
  · intro bundle nodes entry reached first empty
    constructor
    · intro some
      have wrong := MatchingError.count first (by rwa [empty])
      rw [empty] at wrong
      exact run_of_matchingError reached wrong
    · rintro rfl
      exact exists_run_without_columns_iff reached first empty

def emptyMonday : AttributionRequest := { firstWeek with window := monday }

/-- A euro curve of two nodes whose sensitivities are empty. -/
def emptyDeposits : Sources Float :=
  { euroDeposits with sensitivities := fun _ _ => .ok ⟨[⟨"EUR-OIS", .eur, []⟩]⟩ }

theorem reaches_emptyCurve :
    emptyCurve.ReachesMatching emptyMonday .monday false ⟨[⟨"USD-OIS", .usd, []⟩]⟩ 0 := by
  change emptyCurve.ReachesMatching emptyMonday .monday false _
    (CurveSpecification.nodes ⟨"USD-OIS", []⟩).length
  exact .quoted rfl rfl rfl rfl

theorem reaches_emptyDeposits :
    emptyDeposits.ReachesMatching mondayInDollars .monday false ⟨[⟨"EUR-OIS", .eur, []⟩]⟩ 2 := by
  change emptyDeposits.ReachesMatching mondayInDollars .monday false _ (CurveSpecification.nodes
    ⟨"EUR-OIS", [⟨"EUR3M", ⟨.months, 3⟩, none⟩, ⟨"EUR1Y", ⟨.years, 1⟩, some "1Y Swap"⟩]⟩).length
  exact .quoted rfl rfl rfl rfl

/-- The request for a constructed curve, of which no day is there. -/
def skippedMonday : AttributionRequest :=
  { emptyMonday with curve := .implied "USD-OIS" "USD-FX" }

theorem reaches_skippedMonday :
    emptyCurve.ReachesMatching skippedMonday .monday false ⟨[⟨"USD-OIS", .usd, []⟩]⟩ 0 := by
  have completes : emptyCurve.Completes "USD-FX" weekToMonday false :=
    ⟨by decide, rfl, fun _ _ _ => rfl, fun d _ => nofun⟩
  have unreported (tenor : Tenor) :
      tenor ∈ [] ↔ emptyCurve.Reported "USD-FX" weekToMonday.days tenor :=
    ⟨nofun, fun ⟨_, _, _, built, _⟩ => nomatch built⟩
  exact .implied rfl rfl rfl (by decide) .unasked completes .nil unreported

theorem run_emptyCurve :
    (∃ a, (emptyCurve.run emptyMonday ⟨.monday, ⟨0⟩⟩ .none).1 = .ok a ∧ a.matrix.columns = []) ∧
      (emptyDeposits.run mondayInDollars ⟨.monday, ⟨0⟩⟩ .none).1 =
        .error (.failed (.countMismatch "EUR-OIS" 2 0)) ∧
      (emptyCurve.run mondayInDollars ⟨.monday, ⟨0⟩⟩ .none).1 =
        .error (.failed (.missingSensitivities "EUR-OIS")) := by
  obtain ⟨-, -, withoutNodes⟩ := run_tells_absent_sensitivities emptyCurve emptyMonday
    ⟨.monday, ⟨0⟩⟩ .none
  obtain ⟨-, -, withNodes⟩ := run_tells_absent_sensitivities emptyDeposits mondayInDollars
    ⟨.monday, ⟨0⟩⟩ .none
  obtain ⟨-, absent, -⟩ := run_tells_absent_sensitivities emptyCurve mondayInDollars
    ⟨.monday, ⟨0⟩⟩ .none
  refine ⟨((withoutNodes _ _ _ reaches_emptyCurve rfl rfl).2 rfl).mpr ?_,
    (withNodes _ _ _ reaches_emptyDeposits rfl rfl).1 (by decide),
    (absent _).mpr ⟨rfl, _, _, .quoted rfl rfl rfl rfl, rfl⟩⟩
  intro curve _
  exact ⟨weekToMonday, none, by decide, .unasked⟩

/-- Empty sensitivities are not always missing: runs succeed without columns, on a quoted curve
without nodes and on an implied curve of which all days are skipped; and where there are nodes the
count is wrong. -/
theorem not_forall_empty_sensitivities_missing :
    ¬ (∀ (s : Sources Float) (request : AttributionRequest) (context : ValuationContext)
        (tokens : Tokens) (a : Attribution Float), request.curve.isImplied = false →
        (s.run request context tokens).1 = .ok a → a.matrix.columns ≠ []) ∧
      ¬ (∀ (s : Sources Float) (request : AttributionRequest) (context : ValuationContext)
        (tokens : Tokens) (a : Attribution Float), request.curve.isImplied = true →
        (s.run request context tokens).1 = .ok a → a.matrix.columns ≠ []) ∧
      ¬ ∀ (s : Sources Float) (request : AttributionRequest) (context : ValuationContext)
        (tokens : Tokens) (bundle : SensitivityBundle Float) (nodes : Nat)
        (entry : SensitivityEntry Float),
        s.ReachesMatching request context.date (tokens.isCancelled context.token) bundle nodes →
        (bundle.forCurve request.curve.name).head? = some entry → entry.vector = [] →
        (s.run request context tokens).1 =
          .error (.failed (.missingSensitivities request.curve.name)) := by
  refine ⟨fun columns => ?_, fun columns => ?_, fun missing => ?_⟩
  · exact columns emptyCurve emptyMonday ⟨.monday, ⟨0⟩⟩ .none ⟨⟨[]⟩, .usd⟩ rfl rfl rfl
  · obtain ⟨a, ok, none⟩ : ∃ a, (emptyCurve.run skippedMonday ⟨.monday, ⟨0⟩⟩ .none).1 = .ok a ∧
        a.matrix.columns = [] :=
      (exists_run_without_columns_iff reaches_skippedMonday rfl rfl).mpr nofun
    exact columns emptyCurve skippedMonday ⟨.monday, ⟨0⟩⟩ .none a rfl ok none
  · have missed := missing emptyDeposits mondayInDollars ⟨.monday, ⟨0⟩⟩ .none _ _ _
      reaches_emptyDeposits rfl rfl
    have counted : (emptyDeposits.run mondayInDollars ⟨.monday, ⟨0⟩⟩ .none).1 =
        .error (.failed (.countMismatch "EUR-OIS" 2 0)) := rfl
    rw [counted] at missed
    cases missed

end Sources

end CurvePnl
