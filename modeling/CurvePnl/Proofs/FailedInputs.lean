import CurvePnl.Proofs.ReplaySteps
import CurvePnl.Proofs.RunErrors

/-! # Failed inputs

A run asks for all of its inputs before it looks at any of the answers, and tells all failures in
one. The causes are those of the questions that failed, in the order in which they were asked. So
a failure of the sources always has a cause.
-/

namespace CurvePnl

variable {α : Type}

/-- The causes that the answer to one question gives: one if it is an error. -/
def Collaborator.causes {β : Type} (collaborator : Collaborator) (context : String) :
    Except SourceError β → List SourceCause
  | .ok _ => []
  | .error e => [⟨collaborator, context, e⟩]

theorem SourceFailure.causes_collect {β : Type} (f : SourceFailure) (collaborator : Collaborator)
    (context : String) (x : Except SourceError β) :
    (f.collect collaborator context x).causes = f.causes ++ collaborator.causes context x := by
  cases x with
  | ok b => exact (List.append_nil _).symm
  | error e => rfl

theorem Collaborator.causes_eq_nil {β : Type} {collaborator : Collaborator} {context : String}
    {x : Except SourceError β} : collaborator.causes context x = [] ↔ ∃ b, x = .ok b := by
  cases x <;> simp [causes]

/-- A failure of the sources names a source. -/
def AttributionError.NamesCause : AttributionError → Prop
  | .sources failure => failure.causes ≠ []
  | _ => True

/-- An error that does not come from matching a curve with its sensitivities. A failure of the
sources names a source. -/
def AttributionError.Unmatched : AttributionError → Prop
  | .missingSensitivities _ | .countMismatch .. => False
  | .sources failure => failure.causes ≠ []
  | _ => True

namespace Sources

variable [Quantity α] (s : Sources α)

/-- The questions that a run on any curve asks first. -/
def sharedCalls (request : AttributionRequest) (on : Date) : List Call :=
  [.pair request.position.pair, .sensitivities request.position.id on]

/-- The causes of those of the first questions that fail. -/
def sharedCauses (request : AttributionRequest) (on : Date) : List SourceCause :=
  Collaborator.currencyPairs.causes request.position.pair.text (s.pair request.position.pair) ++
    Collaborator.sensitivityCalculator.causes request.position.id
      (s.sensitivities request.position on)

/-- The causes of the inputs of a quoted curve that fail. -/
def quotedCauses (request : AttributionRequest) (curve : CurveName) (on : Date) :
    List SourceCause :=
  s.sharedCauses request on ++
    Collaborator.curveSpecification.causes curve (s.specification curve on)

/-- The conversion that a run on an implied curve looks for. -/
def requestedConversion (request : AttributionRequest) (fetched : DateWindow) (on : Date) :
    Work α (Conversion α) :=
  s.pnlConversion request.curveCurrency request.outputCurrency request.mode fetched on

/-- What the failures of an implied curve's inputs come to: the causes of the first questions, and
after them those of the conversion. An error of the conversion that is not of the sources stands
for itself if it is the only one, and is told as a last cause otherwise. -/
inductive MergedFailure (own : List SourceCause) :
    Except AttributionError (Conversion α) → AttributionError → Prop where
  | own {conversion} (failed : own ≠ []) : MergedFailure own (.ok conversion) (.sources ⟨own⟩)
  | sources {failure} :
      MergedFailure own (.error (.sources failure)) (.sources ⟨own ++ failure.causes⟩)
  | only {e} (other : ∀ failure, e ≠ .sources failure) (alone : own = []) :
      MergedFailure own (.error e) e
  | last {e} (other : ∀ failure, e ≠ .sources failure) (failed : own ≠ []) :
      MergedFailure own (.error e) (.sources ⟨own ++
        [⟨.historicalMarketData, "conversion series", ⟨.invalidInput, e.message⟩⟩]⟩)

variable {s} {request : AttributionRequest} {curve : CurveName} {on : Date}

omit [Quantity α] in
/-- The three inputs of a quoted curve are asked for, whatever the answers. If all questions are
answered then the inputs are found, and otherwise the causes are those of the failed questions. -/
theorem run_quotedInputs (s : Sources α) (request : AttributionRequest) (curve : CurveName)
    (on : Date) (j : Journal α) :
    ((s.quotedInputs request curve on).journal j).calls.toList =
        j.calls.toList ++ (sharedCalls request on ++ [.specification curve on]) ∧
      (s.quotedCauses request curve on = [] →
        ∃ inputs, (s.quotedInputs request curve on).outcome j = .ok inputs) ∧
      (s.quotedCauses request curve on ≠ [] →
        (s.quotedInputs request curve on).outcome j =
          .error (.failed (.sources ⟨s.quotedCauses request curve on⟩))) := by
  have told : (((SourceFailure.empty.collect .currencyPairs request.position.pair.text
        (s.pair request.position.pair)).collect .sensitivityCalculator request.position.id
        (s.sensitivities request.position on)).collect .curveSpecification curve
        (s.specification curve on)).causes = s.quotedCauses request curve on := by
    simp only [SourceFailure.causes_collect]
    rfl
  rw [← told]
  simp only [quotedInputs, askPair, askSensitivities, askSpecification,
    Work.outcome_bind_of_ok (Work.outcome_ask _ _ _), Work.journal_bind_of_ok
    (Work.outcome_ask _ _ _), Work.journal_ask]
  split
  next pair bundle specification paired bundled specified =>
    simp [sharedCalls, SourceFailure.collect, SourceFailure.empty, *]
  next failed =>
    refine ⟨by simp [sharedCalls], fun none => ?_, fun _ => rfl⟩
    simp only [told, quotedCauses, sharedCauses, List.append_eq_nil_iff,
      Collaborator.causes_eq_nil] at none
    obtain ⟨⟨⟨pair, paired⟩, bundle, bundled⟩, specification, specified⟩ := none
    exact absurd specified (failed pair bundle specification paired bundled)

omit [Quantity α] in
theorem impliedFailure_eq {failure : SourceFailure}
    {conversion : Except AttributionError (Conversion α)} {e : AttributionError}
    (merged : MergedFailure failure.causes conversion e) :
    impliedFailure failure conversion = e := by
  cases merged with
  | own | sources => rfl
  | only other alone =>
      cases e with
      | sources f => exact absurd rfl (other f)
      | _ => simp [impliedFailure, SourceFailure.isEmpty, alone]
  | @last e other failed =>
      cases e with
      | sources f => exact absurd rfl (other f)
      | _ => simp [impliedFailure, SourceFailure.isEmpty, failed, SourceFailure.push]

omit [Quantity α] in
theorem exists_mergedFailure {own : List SourceCause}
    {conversion : Except AttributionError (Conversion α)}
    (failed : own ≠ [] ∨ ∃ e, conversion = .error e) : ∃ e, MergedFailure own conversion e := by
  by_cases none : own = []
  · obtain ⟨e, rfl⟩ := failed.resolve_left (absurd none)
    cases e with
    | sources f => exact ⟨_, .sources⟩
    | _ => exact ⟨_, .only nofun none⟩
  · rcases conversion with e | c
    · cases e with
      | sources f => exact ⟨_, .sources⟩
      | _ => exact ⟨_, .last nofun none⟩
    · exact ⟨_, .own none⟩

theorem exists_conversion (s : Sources α) (on : Date) {fetched : DateWindow}
    (lead : request.window.fetched? = some fetched) :
    ∃ conversion, ∀ j,
      (s.requestedConversion request fetched on).attempt.outcome j = .ok conversion := by
  have blind : (s.requestedConversion request fetched on).attempt.Blind :=
    .attempt (s.blind_pnlConversion _ _ _ _ _)
  have ends : (s.requestedConversion request fetched on).attempt.Ends (fun _ => False) _ :=
    (ends_pnlConversion lead).attempt
  rcases ends (.blank false) with ⟨conversion, ok, -⟩ | ⟨e, -, impossible⟩
  · exact ⟨conversion, fun j => (blind.outcome_eq j).trans ok⟩
  · cases impossible

/-- The three inputs of an implied curve are asked for, whatever the answers. They are found if
nothing failed, and otherwise all failures are told in one. -/
theorem run_impliedInputs {fetched : DateWindow} (lead : request.window.fetched? = some fetched)
    {conversion : Except AttributionError (Conversion α)}
    (attempted : ∀ j, (s.requestedConversion request fetched on).attempt.outcome j = .ok conversion)
    (j : Journal α) :
    ((s.impliedInputs request on).journal j).calls.toList =
        j.calls.toList ++ (sharedCalls request on ++
          (s.requestedConversion request fetched on).trace.calls.toList) ∧
      ((∃ inputs, (s.impliedInputs request on).outcome j = .ok inputs) ∨
        ∃ e, MergedFailure (s.sharedCauses request on) conversion e) ∧
      ∀ e, MergedFailure (s.sharedCauses request on) conversion e →
        (s.impliedInputs request on).outcome j = .error (.failed e) := by
  have told : ((SourceFailure.empty.collect .currencyPairs request.position.pair.text
        (s.pair request.position.pair)).collect .sensitivityCalculator request.position.id
        (s.sensitivities request.position on)).causes = s.sharedCauses request on := by
    simp only [SourceFailure.causes_collect]
    rfl
  have blind : (s.requestedConversion request fetched on).Blind :=
    s.blind_pnlConversion _ _ _ _ _
  unfold requestedConversion at attempted blind ⊢
  rw [← told]
  simp only [impliedInputs, askPair, askSensitivities,
    Work.outcome_bind_of_ok (Work.outcome_ask _ _ _), Work.journal_bind_of_ok
    (Work.outcome_ask _ _ _), Work.journal_ask, lead, Work.inRange, pure_bind,
    Work.outcome_bind_of_ok (attempted _), Work.journal_bind_of_ok (attempted _),
    Work.journal_attempt, blind.journal_eq]
  split
  next pair bundle c paired bundled =>
    refine ⟨by simp [sharedCalls, Journal.calls_append], .inl ⟨_, rfl⟩, ?_⟩
    rintro _ (failed | _)
    exact absurd (by rw [paired, bundled]; rfl) failed
  next conversion _ _ _ failed =>
    refine ⟨by simp [sharedCalls, Journal.calls_append], .inr (exists_mergedFailure ?_), ?_⟩
    · by_contra succeeded
      simp only [told, sharedCauses, not_or, not_not, List.append_eq_nil_iff,
        Collaborator.causes_eq_nil] at succeeded
      obtain ⟨⟨⟨pair, paired⟩, bundle, bundled⟩, found⟩ := succeeded
      rcases conversion with e | c
      · exact found ⟨e, rfl⟩
      · exact failed pair bundle c paired bundled rfl
    · intro e merged
      rw [impliedFailure_eq merged]
      rfl

omit [Quantity α] in
theorem appends_replayDay (setup : ReplaySetup) (history : ImpliedHistory α) (day : Date) :
    (s.replayDay setup history day).Appends := by
  have asked : (s.askImpliedCurve setup.construction day).Appends := by
    intro j
    rw [Work.journal, run_askImpliedCurve]
    exact ⟨[.impliedCurve setup.construction day], (Log.toList_push _ _).symm⟩
  intro j
  cases flag : j.cancelled with
  | true => exact ⟨[], by rw [Work.journal, run_replayDay_of_cancelled flag, List.append_nil]⟩
  | false =>
      rw [Work.journal, run_replayDay_of_live flag]
      exact asked.bind (fun answer => (blind_recordDay setup history day answer).appends) j

omit [Quantity α] in
theorem appends_replay (setup : ReplaySetup) (window : DateWindow) :
    (s.replay setup window).Appends := by
  have walk (last : Date) (n : Nat) :
      ∀ history day, (s.replayFrom setup last n history day).Appends := by
    induction n with
    | zero => exact fun history _ => (Work.Blind.pure history).appends
    | succ n ih =>
        intro history day
        refine (Work.Blind.inRange _).appends.bind fun next =>
          (appends_replayDay setup history day).bind fun history => ?_
        split
        · exact ih history next
        · exact (Work.Blind.pure _).appends
  exact (Work.Blind.inRange _).appends.bind fun fetched => walk _ _ _ _

/-- Only after its inputs does a run on an implied curve ask for anything else. -/
theorem prefix_attributeImplied (request : AttributionRequest) (curve : CurveName)
    (construction : ConstructionName) (on : Date) (j : Journal α) :
    ((s.impliedInputs request on).journal j).calls.toList <+:
      ((s.attributeImplied request curve construction on).journal j).calls.toList := by
  rw [attributeImplied_eq_columns]
  refine Work.Appends.prefix_bind (fun inputs => ?_) j
  refine (appends_replay _ _).bind fun history => Work.Blind.appends ?_
  exact .bind (.note _) fun _ => .bind (inputs.1.blind_matchCurve curve) fun matched =>
    .bind (.checkCount _ _ _) fun _ => .bind (.mapM (fun q : (Tenor × DateSeries α) × α =>
      s.blind_impliedColumn request curve inputs.2 q.1.1 q.1.2 q.2) _) fun _ => .pure _

/-- A property of all the errors that single steps end with. -/
structure CoversSteps (s : Sources α) (P : AttributionError → Prop) : Prop where
  pair {native output : Currency} {e : SourceError} (different : output ≠ native)
    (unquoted : s.pair (.of native output) = .error e) :
    P (.source .currencyPairs (UnorderedPair.of native output).text e)
  source {collaborator : Collaborator} (other : collaborator ≠ .currencyPairs) (context : String)
    (e : SourceError) : P (.source collaborator context e)
  value (e : ValueError) : P (.ofValueError e)
  nodeOrder (d : Date) (tenors : List Tenor) : P (.nodeOrder d tenors)
  cancelled (d : Date) : P (.cancelled d)

/-- A property that failed inputs have as well, an implied curve's if their conversion's error has
it. -/
structure CoversInputs (s : Sources α) (request : AttributionRequest) (on : Date)
    (P : AttributionError → Prop) : Prop extends s.CoversSteps P where
  quoted (curve : CurveName) (failed : s.quotedCauses request curve on ≠ []) :
    P (.sources ⟨s.quotedCauses request curve on⟩)
  merged {conversion : Except AttributionError (Conversion α)} {e : AttributionError}
    (others : ∀ e, conversion = .error e → P e)
    (failed : MergedFailure (s.sharedCauses request on) conversion e) : P e

/-- A property of all the errors that a run can end with. -/
structure CoversRun (s : Sources α) (request : AttributionRequest) (on : Date)
    (P : AttributionError → Prop) : Prop extends s.CoversInputs request on P where
  missing (curve : CurveName) : P (.missingSensitivities curve)
  count (curve : CurveName) (nodes sensitivities : Nat) :
    P (.countMismatch curve nodes sensitivities)

variable {P : AttributionError → Prop}

theorem fails_conversionSeries (covers : s.CoversSteps P) {native output : Currency}
    (different : output ≠ native) (window : DateWindow) :
    (s.conversionSeries native output window).Fails P := by
  refine .bind (.ask _ _) fun _ answer asked => .bind (.require fun e unquoted => ?_)
    fun _ pair _ => .bind (.ask _ _) fun _ _ _ =>
    .bind (.require fun e _ => covers.source (by decide) _ e) fun _ history _ =>
    .bind (.note _) fun _ _ _ => ?_
  · cases asked
    exact covers.pair different unquoted
  · split
    · exact .pure _
    · exact .ofValues fun e _ => covers.value e

theorem fails_pnlConversion (covers : s.CoversSteps P) (native : Currency)
    (output : Option Currency) (mode : ConversionMode) (window : DateWindow) (on : Date) :
    (s.pnlConversion native output mode window on).Fails P := by
  unfold pnlConversion
  split
  · exact .pure _
  next output needed =>
    obtain ⟨-, different⟩ := conversionNeeded_eq_some.mp needed
    cases mode with
    | historicalSpot =>
        exact .bind (fails_conversionSeries covers different _) fun _ _ _ => .pure _
    | snapshot =>
        exact .bind (.bind (.ask _ _) fun _ _ _ =>
          .require fun e _ => covers.source (by decide) _ e) fun _ _ _ => .pure _

theorem fails_convertedReturns (covers : s.CoversSteps P) (history : DateSeries α)
    (conversion : Option (DateSeries α)) : (s.convertedReturns history conversion).Fails P := by
  have taken (levels : DateSeries α) : (do
      Work.require .returnSeries "" (← s.askReturns levels)).Fails P :=
    .bind (.ask _ _) fun _ _ _ => .require fun e _ => covers.source (by decide) _ e
  cases conversion with
  | none => exact taken history
  | some rates => exact .bind (.ofValues fun e _ => covers.value e) fun _ levels _ => taken levels

omit [Quantity α] in
theorem fails_matchCurve (b : SensitivityBundle α) (curve : CurveName)
    {P : AttributionError → Prop}
    (missing : b.matched? curve = none → P (.missingSensitivities curve)) :
    (b.matchCurve curve).Fails P := by
  unfold SensitivityBundle.matchCurve
  cases found : b.matched? curve with
  | none => exact .fail (missing found)
  | some m =>
      simp only
      split
      · exact .bind (.note _) fun _ _ _ => .pure _
      · exact .pure _

omit [Quantity α] in
theorem fails_quotedInputs (covers : s.CoversInputs request on P) (curve : CurveName) :
    (s.quotedInputs request curve on).Fails P := by
  intro j e failed
  obtain ⟨-, found, told⟩ := run_quotedInputs s request curve on j
  by_cases none : s.quotedCauses request curve on = []
  · obtain ⟨inputs, ok⟩ := found none
    rw [ok] at failed
    cases failed
  · rw [told none] at failed
    cases failed
    exact covers.quoted curve none

theorem fails_quotedConversion (covers : s.CoversSteps P) (native : Currency)
    (output : Option Currency) (window : DateWindow) :
    (s.quotedConversion native output window).Fails P := by
  unfold quotedConversion
  split
  · exact .pure _
  next output needed =>
    exact .map (fails_conversionSeries covers (conversionNeeded_eq_some.mp needed).2 _)

theorem fails_quotedColumn (covers : s.CoversSteps P) (request : AttributionRequest)
    (curve : CurveName) (fetched : DateWindow) (conversion : Option (DateSeries α))
    (node : CurveNode) (sensitivity : α) :
    (s.quotedColumn request curve fetched conversion node sensitivity).Fails P :=
  .bind (.ask _ _) fun _ _ _ => .bind (.require fun e _ => covers.source (by decide) _ e)
    fun _ _ _ => .bind (fails_convertedReturns covers _ _) fun _ _ _ =>
    .bind (.note _) fun _ _ _ => .pure _

theorem fails_attributeQuoted (covers : s.CoversRun request on P) (curve : CurveName) :
    (s.attributeQuoted request curve on).Fails P := by
  rw [attributeQuoted_eq]
  refine .bind (fails_quotedInputs covers.toCoversInputs curve) fun _ inputs _ =>
    .bind (fails_matchCurve inputs.1 curve fun _ => covers.missing _) fun _ matched _ =>
    .bind (.checkCount fun _ => covers.count _ _ _) fun _ _ _ => .bind (.inRange _)
    fun _ fetched _ => .bind (fails_quotedConversion covers.toCoversSteps _ _ _)
    fun _ conversion _ => ?_
  exact .bind (.mapM (fun q : CurveNode × α =>
    fails_quotedColumn covers.toCoversSteps request curve fetched conversion q.1 q.2) _)
    fun _ _ _ => .pure _

theorem fails_impliedInputs (covers : s.CoversInputs request on P) :
    (s.impliedInputs request on).Fails P := by
  intro j e failed
  cases lead : request.window.fetched? with
  | none =>
      simp only [impliedInputs, askPair, askSensitivities,
        Work.outcome_bind_of_ok (Work.outcome_ask _ _ _), lead] at failed
      cases failed
  | some fetched =>
      obtain ⟨conversion, attempted⟩ := exists_conversion s on lead
      obtain ⟨-, found, told⟩ := run_impliedInputs lead attempted j
      rcases found with ⟨inputs, ok⟩ | ⟨e', merged⟩
      · rw [ok] at failed
        cases failed
      · rw [told e' merged] at failed
        cases failed
        refine covers.merged ?_ merged
        rintro e rfl
        exact (fails_pnlConversion covers.toCoversSteps _ _ _ _ _).of_attempt (attempted j)

omit [Quantity α] in
theorem fails_recordDay (covers : s.CoversSteps P) (setup : ReplaySetup)
    (history : ImpliedHistory α) (day : Date) (answer : Except SourceError (ImpliedCurve α)) :
    (recordDay setup history day answer).Fails P := by
  cases answer with
  | error e =>
      unfold recordDay
      dsimp only
      split
      · exact .bind (.note _) fun _ _ _ => .pure _
      · exact .pure _
  | ok curve =>
      have gathered : (do
          let buckets ← Work.ofValues (ImpliedHistory.gather history.buckets day curve.points)
          Work.note (.curveBuilt day curve.points.length)
          return { history with buckets }.push (.built day curve.points.length) :
            Work α _).Fails P :=
        .bind (.ofValues fun e _ => covers.value e) fun _ _ _ => .bind (.note _) fun _ _ _ =>
          .pure _
      unfold recordDay
      dsimp only
      split
      · exact gathered
      · exact .bind (.fail (covers.nodeOrder _ _)) fun _ _ _ => gathered

omit [Quantity α] in
theorem fails_replayDay (covers : s.CoversSteps P) (setup : ReplaySetup)
    (history : ImpliedHistory α) (day : Date) : (s.replayDay setup history day).Fails P := by
  have asked : (s.askImpliedCurve setup.construction day).Fails P :=
    .of_ok fun j => by rw [Work.outcome, run_askImpliedCurve]
  intro j e failed
  cases flag : j.cancelled with
  | true =>
      rw [Work.outcome, run_replayDay_of_cancelled flag] at failed
      cases failed
      exact covers.cancelled day
  | false =>
      rw [Work.outcome, run_replayDay_of_live flag] at failed
      exact asked.bind (fun _ answer _ => fails_recordDay covers setup history day answer) j e
        failed

omit [Quantity α] in
theorem fails_replay (covers : s.CoversSteps P) (setup : ReplaySetup) (window : DateWindow) :
    (s.replay setup window).Fails P := by
  have walk (last : Date) (n : Nat) :
      ∀ history day, (s.replayFrom setup last n history day).Fails P := by
    induction n with
    | zero => exact fun history _ => .pure history
    | succ n ih =>
        intro history day
        refine .bind (.inRange _) fun _ next _ =>
          .bind (fails_replayDay covers setup history day) fun _ history _ => ?_
        split
        · exact ih history next
        · exact .pure _
  exact .bind (.inRange _) fun _ fetched _ => walk _ _ _ _

theorem fails_apply (covers : s.CoversSteps P) (conversion : Conversion α) (pnl : DateSeries α) :
    (conversion.apply pnl).Fails P := by
  cases conversion with
  | identity | snapshot => exact .pure _
  | historicalSpot rates =>
      exact .bind (.notes _ _) fun _ _ _ => .bind (.ofValues fun e _ => covers.value e)
        fun _ _ _ => .pure _

theorem fails_impliedColumn (covers : s.CoversSteps P) (request : AttributionRequest)
    (curve : CurveName) (conversion : Conversion α) (tenor : Tenor) (rates : DateSeries α)
    (sensitivity : α) :
    (s.impliedColumn request curve conversion tenor rates sensitivity).Fails P :=
  .bind (fails_convertedReturns covers _ _) fun _ _ _ => .bind (fails_apply covers _ _)
    fun _ _ _ => .bind (.note _) fun _ _ _ => .pure _

theorem fails_attributeImplied (covers : s.CoversRun request on P) (curve : CurveName)
    (construction : ConstructionName) :
    (s.attributeImplied request curve construction on).Fails P := by
  rw [attributeImplied_eq_columns]
  refine .bind (fails_impliedInputs covers.toCoversInputs) fun _ inputs _ =>
    .bind (fails_replay covers.toCoversSteps _ _) fun _ history _ => .bind (.note _) fun _ _ _ =>
    .bind (fails_matchCurve inputs.1 curve fun _ => covers.missing _) fun _ matched _ =>
    .bind (.checkCount fun _ => covers.count _ _ _) fun _ _ _ => ?_
  exact .bind (.mapM (fun q : (Tenor × DateSeries α) × α =>
    fails_impliedColumn covers.toCoversSteps request curve inputs.2 q.1.1 q.1.2 q.2) _)
    fun _ _ _ => .pure _

theorem fails_attribution (covers : s.CoversRun request on P) :
    (s.attribution request on).Fails P := by
  unfold attribution
  cases request.curve with
  | quoted curve =>
      exact .bind (fails_attributeQuoted covers curve) fun _ _ _ =>
        .bind (.note _) fun _ _ _ => .pure _
  | implied curve construction =>
      exact .bind (fails_attributeImplied covers curve construction) fun _ _ _ =>
        .bind (.note _) fun _ _ _ => .pure _

omit [Quantity α] in
theorem MergedFailure.covered (names : ∀ failure, P (.sources failure) ↔ failure.causes ≠ [])
    {own : List SourceCause} {conversion : Except AttributionError (Conversion α)}
    {e : AttributionError} (others : ∀ e, conversion = .error e → P e)
    (merged : MergedFailure own conversion e) : P e := by
  cases merged with
  | own failed => exact (names _).mpr failed
  | sources =>
      have named := (names _).mp (others _ rfl)
      exact (names _).mpr (List.append_ne_nil_of_right_ne_nil own named)
  | only => exact others _ rfl
  | last => exact (names _).mpr (List.append_ne_nil_of_right_ne_nil own (List.cons_ne_nil _ _))

omit [Quantity α] in
theorem coversSteps_unmatched (s : Sources α) : s.CoversSteps AttributionError.Unmatched where
  pair _ _ := List.cons_ne_nil _ _
  source _ _ _ := List.cons_ne_nil _ _
  value e := by cases e <;> exact trivial
  nodeOrder _ _ := trivial
  cancelled _ := trivial

omit [Quantity α] in
theorem coversInputs_unmatched (s : Sources α) (request : AttributionRequest) (on : Date) :
    s.CoversInputs request on AttributionError.Unmatched where
  toCoversSteps := s.coversSteps_unmatched
  quoted _ failed := failed
  merged := MergedFailure.covered fun _ => .rfl

omit [Quantity α] in
theorem coversRun_namesCause (s : Sources α) (request : AttributionRequest) (on : Date) :
    s.CoversRun request on AttributionError.NamesCause where
  pair _ _ := List.cons_ne_nil _ _
  source _ _ _ := List.cons_ne_nil _ _
  value e := by cases e <;> exact trivial
  nodeOrder _ _ := trivial
  cancelled _ := trivial
  quoted _ failed := failed
  merged := MergedFailure.covered fun _ => .rfl
  missing _ := trivial
  count _ _ _ := trivial

/-- A run asks for all of its inputs, and tells all of their failures and no others. On a quoted
curve the inputs are the pair, the sensitivities and the specification. On an implied curve they
are the pair, the sensitivities and the conversion, if the fetched window is in range. A failure of
the sources names at least one. -/
theorem run_tells_failed_inputs (s : Sources α) (request : AttributionRequest)
    (context : ValuationContext) (tokens : Tokens) :
    (∀ curve, request.curve = .quoted curve →
      sharedCalls request context.date ++ [.specification curve context.date] <+:
        (s.run request context tokens).2.1.calls.toList ∧
      (s.quotedCauses request curve context.date = [] →
        ∃ inputs, (s.quotedInputs request curve context.date).alone = .ok inputs) ∧
      (s.quotedCauses request curve context.date ≠ [] →
        (s.run request context tokens).1 =
          .error (.failed (.sources ⟨s.quotedCauses request curve context.date⟩)) ∧
        (s.run request context tokens).2.1.calls.toList =
          sharedCalls request context.date ++ [.specification curve context.date])) ∧
    (∀ curve construction fetched, request.curve = .implied curve construction →
      request.window.fetched? = some fetched →
      ∃ conversion,
        (s.requestedConversion request fetched context.date).attempt.alone = .ok conversion ∧
        sharedCalls request context.date ++
            (s.requestedConversion request fetched context.date).trace.calls.toList <+:
          (s.run request context tokens).2.1.calls.toList ∧
        ((∃ inputs, (s.impliedInputs request context.date).alone = .ok inputs) ∨
          ∃ e, MergedFailure (s.sharedCauses request context.date) conversion e) ∧
        ∀ e, MergedFailure (s.sharedCauses request context.date) conversion e →
          (s.run request context tokens).1 = .error (.failed e) ∧
          (s.run request context tokens).2.1.calls.toList =
            sharedCalls request context.date ++
              (s.requestedConversion request fetched context.date).trace.calls.toList) ∧
    ∀ failure, (s.run request context tokens).1 = .error (.failed (.sources failure)) →
      failure.causes ≠ [] := by
  have begun : (s.run request context tokens).1 = (s.attribution request context.date).outcome
      (.blank (tokens.isCancelled context.token)) := rfl
  have left : (s.run request context tokens).2.1 = (s.attribution request context.date).journal
      (.blank (tokens.isCancelled context.token)) := rfl
  have nothing : (Journal.blank (tokens.isCancelled context.token) : Journal α).calls.toList = [] :=
    rfl
  rw [begun, left]
  generalize Journal.blank (tokens.isCancelled context.token) = j at nothing
  have told (w : Work α (Attribution α)) (tell : Attribution α → Event α) :
      (w.journal j).calls.toList <+:
        ((do let done ← w; Work.note (tell done); return done).journal j).calls.toList :=
    Work.Appends.prefix_bind (fun _ => (Work.Blind.bind (.note _) fun _ => .pure _).appends) j
  have covers := coversRun_namesCause s request context.date
  refine ⟨?_, ?_, fun failure failed => fails_attribution covers j _ failed⟩
  · intro curve quoted
    obtain ⟨calls, found, failed⟩ := run_quotedInputs s request curve context.date j
    obtain ⟨rest, same, blind⟩ := s.exists_attributeQuoted_eq request curve context.date
    rw [nothing, List.nil_append] at calls
    simp only [attribution, quoted]
    refine ⟨?_, ?_, ?_⟩
    · rw [← calls]
      refine .trans ?_ (told _ _)
      rw [same]
      exact Work.Appends.prefix_bind (fun inputs => (blind inputs).appends) j
    · intro none
      rw [← (s.blind_quotedInputs request curve context.date).outcome_eq j]
      exact found none
    · intro some
      have stopped : (s.attributeQuoted request curve context.date).outcome j = _ :=
        Work.outcome_bind_of_error (failed some)
      have kept : (s.attributeQuoted request curve context.date).journal j = _ :=
        Work.journal_bind_of_error (failed some)
      rw [Work.outcome_bind_of_error stopped, Work.journal_bind_of_error stopped, kept]
      exact ⟨rfl, calls⟩
  · intro curve construction fetched implied lead
    obtain ⟨conversion, attempted⟩ := exists_conversion s context.date lead
    obtain ⟨calls, found, failed⟩ := run_impliedInputs lead attempted j
    rw [nothing, List.nil_append] at calls
    simp only [attribution, implied]
    refine ⟨conversion, attempted _, ?_, ?_, ?_⟩
    · rw [← calls]
      exact (prefix_attributeImplied request curve construction context.date j).trans (told _ _)
    · rw [← (s.blind_impliedInputs request context.date).outcome_eq j]
      exact found
    · intro e merged
      have stopped : (s.attributeImplied request curve construction context.date).outcome j = _ :=
        Work.outcome_bind_of_error (failed e merged)
      have kept : (s.attributeImplied request curve construction context.date).journal j = _ :=
        Work.journal_bind_of_error (failed e merged)
      rw [Work.outcome_bind_of_error stopped, Work.journal_bind_of_error stopped, kept]
      exact ⟨rfl, calls⟩

/-- Without any source, all inputs of an implied curve are told to be missing. -/
theorem run_silent :
    impliedMonday.curve = .implied "EUR-OIS" "OIS" ∧
      impliedMonday.window.fetched? = some weekToMonday ∧
      ((silent : Sources Float).run impliedMonday ⟨.monday, ⟨0⟩⟩ .none).1 =
        .error (.failed (.sources ⟨[⟨.currencyPairs, "USDEUR", ⟨.notFound, "pair"⟩⟩,
          ⟨.sensitivityCalculator, "FXF-1", ⟨.notFound, "sensitivities"⟩⟩,
          ⟨.fxMatrix, "EUR->USD", ⟨.notFound, "fx rate"⟩⟩]⟩)) := by
  have lead : impliedMonday.window.fetched? = some weekToMonday := by decide
  obtain ⟨conversion, attempted, -, -, failed⟩ := (run_tells_failed_inputs (silent : Sources Float)
    impliedMonday ⟨.monday, ⟨0⟩⟩ .none).2.1 "EUR-OIS" "OIS" weekToMonday rfl lead
  have missing : ((silent : Sources Float).requestedConversion impliedMonday weekToMonday
      .monday).attempt.alone =
        .ok (.error (.source .fxMatrix "EUR->USD" ⟨.notFound, "fx rate"⟩)) := rfl
  rw [missing, Except.ok.injEq] at attempted
  subst attempted
  exact ⟨rfl, lead, (failed _ .sources).1⟩

/-- Sensitivities to a dollar curve, and no pair. -/
def pairless : Sources Float :=
  { silent with sensitivities := fun _ _ => .ok ⟨[⟨"USD-DEPO", .usd, []⟩]⟩ }

/-- Not every run on an implied curve tells that the pair is missing: in the first week of the
calendar the window has no lead, and the run aborts before it looks at the answers. -/
theorem not_forall_run_tells_failed_pair :
    ¬ ∀ (s : Sources Float) (request : AttributionRequest) (curve : CurveName)
      (construction : ConstructionName) (context : ValuationContext) (tokens : Tokens)
      (e : SourceError),
      request.curve = .implied curve construction → s.pair request.position.pair = .error e →
      ∃ failure, (s.run request context tokens).1 = .error (.failed (.sources failure)) := by
  intro told
  obtain ⟨failure, failed⟩ := told pairless { firstWeek with curve := .implied "USD-DEPO" "USD-FX" }
    "USD-DEPO" "USD-FX" ⟨.monday, ⟨0⟩⟩ .none _ rfl rfl
  have aborted : (pairless.run { firstWeek with curve := .implied "USD-DEPO" "USD-FX" }
      ⟨.monday, ⟨0⟩⟩ .none).1 = .error .aborted := rfl
  rw [aborted] at failed
  cases failed

end Sources

end CurvePnl
