import CurvePnl.Proofs.Cancellation
import CurvePnl.Proofs.Endings
import CurvePnl.Proofs.ImpliedRun
import CurvePnl.Proofs.QuotedRun
import CurvePnl.Proofs.Returns

/-! # The errors that a run may end with

Many steps of a run could fail in principle: a sample that is not later than its bucket, a series
or a matrix that does not fit together. What the steps before them guarantee leaves few errors
over, and the main statement lists them.
-/

namespace CurvePnl

variable {α : Type} [Quantity α]

namespace DateSeries

theorem reciprocal_of_error {s : DateSeries α} {e : ValueError} (h : s.reciprocal = .error e) :
    ∃ a ∈ s.samples, Quantity.isZero a.2 = true ∧ e = .zeroSample a.1 := by
  unfold reciprocal at h
  split at h
  next a found =>
    cases h
    have zero := List.find?_some found
    exact ⟨a, List.mem_of_find?_eq_some found, zero, rfl⟩
  · cases h

theorem alignedProducts_of_error {other : DateSeries α} {context : String} {l : List (Sample α)}
    {e : ValueError} (h : alignedProducts other context l = .error e) :
    ∃ a ∈ l, other.valueOn? a.1 = none ∧ e = .misaligned a.1 context := by
  rw [alignedProducts_eq] at h
  split at h
  next a missing =>
    cases h
    exact ⟨a, List.mem_of_find?_eq_some missing,
      Option.isNone_iff_eq_none.mp (List.find?_some missing :), rfl⟩
  · cases h

theorem multiplyAligned_of_error {s other : DateSeries α} {context : String} {e : ValueError}
    (h : s.multiplyAligned other context = .error e) :
    ∃ d ∈ s.dates, other.valueOn? d = none ∧ e = .misaligned d context := by
  unfold multiplyAligned at h
  split at h
  next e' failed =>
    cases h
    obtain ⟨a, member, lacking⟩ := alignedProducts_of_error failed
    exact ⟨a.1, List.mem_map_of_mem member, lacking⟩
  · cases h

end DateSeries

namespace SourceFailure

/-- No cause is a failure of this source. -/
def Spares (f : SourceFailure) (collaborator : Collaborator) : Prop :=
  ∀ cause ∈ f.causes, cause.collaborator ≠ collaborator

namespace Spares

variable {f : SourceFailure} {spared collaborator : Collaborator}

theorem empty : SourceFailure.empty.Spares spared := nofun

theorem push (spares : f.Spares spared) {cause : SourceCause}
    (other : cause.collaborator ≠ spared) : (f.push cause).Spares spared := by
  intro c member
  rcases List.mem_append.mp member with member | member
  · exact spares c member
  · rw [List.mem_singleton.mp member]
    exact other

theorem collect (spares : f.Spares spared) (other : collaborator ≠ spared) {context : String}
    {β : Type} {x : Except SourceError β} : (f.collect collaborator context x).Spares spared := by
  cases x with
  | ok b => exact spares
  | error e => exact spares.push other

end Spares

end SourceFailure

namespace Sources

variable (s : Sources α)

/-- The run is on a quoted curve, and asks for another currency than that of its
sensitivities. -/
def ConvertsHistories (request : AttributionRequest) (on : Date) : Prop :=
  ∃ curve bundle entry output, request.curve = .quoted curve ∧
    s.sensitivities request.position on = .ok bundle ∧
    (bundle.forCurve curve).head? = some entry ∧
    request.outputCurrency = some output ∧ output ≠ entry.currency

/-- The history of an exchange rate to the output currency, or its inverse, holds a zero. -/
def ZeroRate (request : AttributionRequest) (date : Date) : Prop :=
  ∃ native output pair fetched history rates value, request.outputCurrency = some output ∧
    output ≠ native ∧ s.pair (.of native output) = .ok pair ∧
    request.window.fetched? = some fetched ∧ s.fxHistory pair fetched = .ok history ∧
    (rates = history ∨ history.reciprocal = .ok rates) ∧
    (date, value) ∈ rates.samples ∧ Quantity.isZero value = true

/-- The errors that a run may end with. -/
inductive RunError (request : AttributionRequest) (on : Date) : AttributionError → Prop where
  | missing {curve} : RunError request on (.missingSensitivities curve)
  | count {curve nodes sensitivities} :
      RunError request on (.countMismatch curve nodes sensitivities)
  | sources {failure : SourceFailure}
      (returns : ∀ cause ∈ failure.causes, cause.collaborator = .returnSeries →
        ∃ levels, s.returns levels = .error cause.error) :
      RunError request on (.sources failure)
  | misaligned {date} (converts : s.ConvertsHistories request on) :
      RunError request on (.misaligned date)
  | nodeOrder {date tenors} (implied : request.curve.isImplied = true) :
      RunError request on (.nodeOrder date tenors)
  | cancelled {date} (implied : request.curve.isImplied = true) :
      RunError request on (.cancelled date)
  | zeroRate {date} (zero : s.ZeroRate request date) :
      RunError request on (.value (.zeroSample date))

variable {s} {request : AttributionRequest} {on : Date}

theorem RunError.spared {failure : SourceFailure} (spares : failure.Spares .returnSeries) :
    s.RunError request on (.sources failure) :=
  .sources fun cause member isReturns => absurd isReturns (spares cause member)

theorem RunError.source {collaborator : Collaborator} (other : collaborator ≠ .returnSeries)
    (context : String) (e : SourceError) :
    s.RunError request on (.source collaborator context e) := by
  have spares : (SourceFailure.empty.push ⟨collaborator, context, e⟩).Spares .returnSeries :=
    SourceFailure.Spares.empty.push other
  exact .spared spares

theorem RunError.returns {levels : DateSeries α} {e : SourceError}
    (failed : s.returns levels = .error e) :
    s.RunError request on (.source .returnSeries "" e) := by
  refine .sources fun cause member _ => ⟨levels, ?_⟩
  rw [List.mem_singleton.mp member]
  exact failed

omit [Quantity α] in
theorem ends_matchCurve (b : SensitivityBundle α) (curve : CurveName) {P : AttributionError → Prop}
    (missing : P (.missingSensitivities curve)) :
    (b.matchCurve curve).Ends P fun m => b.matched? curve = some m := by
  unfold SensitivityBundle.matchCurve
  cases b.matched? curve with
  | none => exact .fail missing
  | some m =>
      simp only
      split
      · exact .bind (.note _) fun _ _ => .pure rfl
      · exact .pure rfl

theorem ends_conversionSeries {native output : Currency} {fetched : DateWindow}
    (asked : request.outputCurrency = some output) (different : output ≠ native)
    (lead : request.window.fetched? = some fetched) :
    (s.conversionSeries native output fetched).Ends (s.RunError request on)
      (s.ConversionRates native output fetched) := by
  refine Work.Ends.strengthen ?_ fun j rates => s.outcome_conversionSeries_eq_ok.mp
  refine .bind (.ask _ _) fun _ answer => .bind (.require fun e _ => .source (by decide) _ e)
    fun pair paired => .bind (.ask _ _) fun _ answer' =>
    .bind (.require fun e _ => .source (by decide) _ e) fun history returned =>
    .bind (.note _) fun _ _ => ?_
  subst answer answer'
  split
  · exact .pure trivial
  · refine (Work.Ends.ofValues fun e failed => ?_).forget
    obtain ⟨⟨d, value⟩, member, zero, rfl⟩ := DateSeries.reciprocal_of_error failed
    exact .zeroRate ⟨native, output, pair, fetched, history, history, value, asked, different,
      paired, lead, returned, .inl rfl, member, zero⟩

theorem ends_convertedReturns {history : DateSeries α} {conversion : Option (DateSeries α)}
    (converts : ∀ rates, conversion = some rates → s.ConvertsHistories request on) :
    (s.convertedReturns history conversion).Ends (s.RunError request on) fun _ => True := by
  have taken (levels : DateSeries α) : (do
      Work.require .returnSeries "" (← s.askReturns levels)).Ends (s.RunError request on)
        fun _ => True := by
    refine .bind (.ask _ _) fun answer same => ?_
    refine (Work.Ends.require fun e failed => ?_).forget
    exact .returns (same.symm.trans failed)
  cases conversion with
  | none => exact taken history
  | some rates =>
      refine .bind (.ofValues fun e failed => ?_) fun levels _ => taken levels
      obtain ⟨d, -, -, rfl⟩ := DateSeries.multiplyAligned_of_error failed
      exact .misaligned (converts rates rfl)

theorem ends_quotedInputs (curve : CurveName) :
    (s.quotedInputs request curve on).Ends (s.RunError request on) fun inputs =>
      s.sensitivities request.position on = .ok inputs.1 := by
  refine .bind (.ask _ _) fun pair _ => .bind (.ask _ _) fun bundle answer =>
    .bind (.ask _ _) fun specification _ => ?_
  split
  next pair b specification =>
    exact .pure answer.symm
  · refine .fail (.spared ?_)
    exact ((SourceFailure.Spares.empty.collect (by decide)).collect (by decide)).collect (by decide)

theorem ends_quotedConversion {native : Currency} {fetched : DateWindow}
    (lead : request.window.fetched? = some fetched) :
    (s.quotedConversion native request.outputCurrency fetched).Ends (s.RunError request on)
      (s.QuotedConversion native fetched request.outputCurrency) := by
  refine Work.Ends.strengthen ?_ fun j conversion => s.outcome_quotedConversion_eq_ok.mp
  unfold quotedConversion
  split
  · exact .pure trivial
  next output needed =>
    obtain ⟨asked, different⟩ := conversionNeeded_eq_some.mp needed
    exact (ends_conversionSeries asked different lead).map fun _ _ => trivial

theorem ends_quotedColumn {curve : CurveName} {fetched : DateWindow}
    {conversion : Option (DateSeries α)}
    (converts : ∀ rates, conversion = some rates → s.ConvertsHistories request on)
    (node : CurveNode) (sensitivity : α) :
    (s.quotedColumn request curve fetched conversion node sensitivity).Ends
      (s.RunError request on) fun _ => True :=
  .bind (.ask _ _) fun _ _ => .bind (.require fun e _ => .source (by decide) _ e) fun _ _ =>
    .bind (ends_convertedReturns converts) fun _ _ => .bind (.note _) fun _ _ => .pure trivial

theorem ends_attributeQuoted {curve : CurveName} (quoted : request.curve = .quoted curve)
    {fetched : DateWindow} (lead : request.window.fetched? = some fetched) :
    (s.attributeQuoted request curve on).Ends (s.RunError request on) fun _ => True := by
  rw [attributeQuoted_eq]
  refine .bind (ends_quotedInputs curve) fun ⟨bundle, specification⟩ bundled =>
    .bind (ends_matchCurve bundle curve .missing) fun matched found =>
    .bind (.checkCount fun _ => .count) fun _ _ => .bind (.inRange lead) fun _ same => ?_
  subst same
  obtain ⟨entry, first, rfl⟩ := SensitivityBundle.matched?_eq_some_iff.mp found
  refine .bind (ends_quotedConversion lead) fun conversion resolved => ?_
  have converts : ∀ rates, conversion = some rates → s.ConvertsHistories request on := by
    rintro rates rfl
    generalize asked : request.outputCurrency = output at resolved
    cases resolved with
    | needed different _ => exact ⟨curve, bundle, entry, _, quoted, bundled, first, asked, different⟩
  refine .bind (.mapM fun q _ => ends_quotedColumn converts q.1 q.2) fun _ _ => .pure trivial

theorem ends_pnlConversion {native : Currency} {fetched : DateWindow}
    (lead : request.window.fetched? = some fetched) :
    (s.pnlConversion native request.outputCurrency request.mode fetched on).Ends
      (s.RunError request on)
      (s.PnlConversion native fetched on request.outputCurrency request.mode) := by
  refine Work.Ends.strengthen ?_ fun j conversion => s.outcome_pnlConversion_eq_ok.mp
  unfold pnlConversion
  split
  · exact .pure trivial
  next output needed =>
    obtain ⟨asked, different⟩ := conversionNeeded_eq_some.mp needed
    split
    · exact .bind (ends_conversionSeries asked different lead) fun _ _ => .pure trivial
    · have rate : (s.snapshotRate native output on).Ends (s.RunError request on) fun _ => True :=
        .bind (.ask _ _) fun _ _ => (Work.Ends.require fun e _ => .source (by decide) _ e).forget
      exact rate.bind fun _ _ => .pure trivial

theorem RunError.impliedFailure {failure : SourceFailure}
    {conversion : Except AttributionError (Conversion α)}
    (spares : failure.Spares .returnSeries)
    (documented : ∀ e, conversion = .error e → s.RunError request on e) :
    s.RunError request on (Sources.impliedFailure failure conversion) := by
  unfold Sources.impliedFailure
  split
  · exact .spared spares
  next failure' =>
    cases documented _ rfl with
    | sources returns =>
        refine .sources fun cause member isReturns => ?_
        rcases List.mem_append.mp member with member | member
        · exact absurd isReturns (spares cause member)
        · exact returns cause member isReturns
  next e _ =>
    split
    · exact documented e rfl
    · exact .spared (spares.push nofun)

theorem ends_impliedInputs {fetched : DateWindow}
    (lead : request.window.fetched? = some fetched) :
    (s.impliedInputs request on).Ends (s.RunError request on) fun inputs =>
      s.PnlConversion request.curveCurrency fetched on request.outputCurrency request.mode
        inputs.2 := by
  have converted : (s.pnlConversion request.curveCurrency request.outputCurrency request.mode
      fetched on).Ends (s.RunError request on) _ := ends_pnlConversion lead
  refine .bind (.ask _ _) fun pair _ => .bind (.ask _ _) fun bundle _ =>
    .bind (.inRange lead) fun _ same => ?_
  subst same
  refine .bind converted.attempt fun conversion resolved => ?_
  split
  next c =>
    exact .pure resolved
  · refine .fail (.impliedFailure ?_ ?_)
    · exact (SourceFailure.Spares.empty.collect (by decide)).collect (by decide)
    · rintro e rfl
      exact resolved

theorem ends_apply {native : Currency} {fetched : DateWindow}
    (lead : request.window.fetched? = some fetched) {conversion : Conversion α}
    (resolved : s.PnlConversion native fetched on request.outputCurrency request.mode conversion)
    (pnl : DateSeries α) :
    (conversion.apply pnl).Ends (s.RunError request on) fun _ => True := by
  cases conversion with
  | identity => exact .pure trivial
  | snapshot rate => exact .pure trivial
  | historicalSpot rates =>
      refine .bind (.notes _ _) fun _ _ =>
        .bind (.ofValues fun e failed => ?_) fun _ _ => .pure trivial
      obtain ⟨⟨d, value⟩, member, zero, rfl⟩ := DateSeries.reciprocal_of_error failed
      generalize asked : request.outputCurrency = output at resolved
      generalize request.mode = mode at resolved
      cases resolved with
      | spot different found =>
          obtain ⟨pair, history, paired, returned, oriented⟩ := found
          refine .zeroRate ⟨native, _, pair, fetched, history, rates, value, asked, different,
            paired, lead, returned, ?_, member, zero⟩
          split at oriented
          · exact .inl oriented
          · exact .inr oriented

theorem ends_impliedColumn {native : Currency} {fetched : DateWindow}
    (lead : request.window.fetched? = some fetched) {conversion : Conversion α}
    (resolved : s.PnlConversion native fetched on request.outputCurrency request.mode conversion)
    (curve : CurveName) (tenor : Tenor) (rates : DateSeries α) (sensitivity : α) :
    (s.impliedColumn request curve conversion tenor rates sensitivity).Ends
      (s.RunError request on) fun _ => True :=
  .bind (ends_convertedReturns nofun) fun _ _ => .bind (ends_apply lead resolved _) fun _ _ =>
    .bind (.note _) fun _ _ => .pure trivial

omit [Quantity α] in
theorem ends_replay {setup : ReplaySetup} {window fetched : DateWindow}
    (lead : window.fetched? = some fetched) (bounded : window.last < Date.last) :
    (s.replay setup window).Ends
      (fun e => (∃ d, e = .cancelled d) ∨ ∃ d tenors, e = .nodeOrder d tenors) fun _ => True := by
  intro j
  obtain ⟨made, rest, -, ended⟩ := exists_days_end s setup j fetched.pairwise_days
  rw [Work.outcome, replay_eq_foldlM lead bounded]
  generalize (fetched.days.foldlM (s.replayDay setup) .empty).run.run j = result at ended ⊢
  cases ended with
  | unasked | cancelled => exact .inr ⟨_, rfl, .inl ⟨_, rfl⟩⟩
  | disordered => exact .inr ⟨_, rfl, .inr ⟨_, _, rfl⟩⟩
  | finished => exact .inl ⟨_, rfl, trivial⟩

theorem ends_attributeImplied {curve : CurveName} {construction : ConstructionName}
    (implied : request.curve = .implied curve construction) {fetched : DateWindow}
    (lead : request.window.fetched? = some fetched) (bounded : request.window.last < Date.last) :
    (s.attributeImplied request curve construction on).Ends (s.RunError request on)
      fun _ => True := by
  have isImplied : request.curve.isImplied = true := by
    rw [implied]
    rfl
  have replays : (s.replay { construction } request.window).Ends (s.RunError request on)
      fun _ => True := by
    refine (ends_replay lead bounded).mono ?_ fun _ _ => trivial
    rintro e (⟨d, rfl⟩ | ⟨d, tenors, rfl⟩)
    · exact .cancelled isImplied
    · exact .nodeOrder isImplied
  rw [attributeImplied_eq_columns]
  refine .bind (ends_impliedInputs lead) fun ⟨bundle, conversion⟩ resolved =>
    .bind replays fun history _ => .bind (.note _) fun _ _ =>
    .bind (ends_matchCurve bundle curve .missing) fun matched _ =>
    .bind (.checkCount fun _ => .count) fun _ _ => ?_
  exact .bind (.mapM fun q _ => ends_impliedColumn lead resolved curve q.1.1 q.1.2 q.2)
    fun _ _ => .pure trivial

theorem ends_attribution {fetched : DateWindow} (lead : request.window.fetched? = some fetched)
    (bounded : request.window.last < Date.last) :
    (s.attribution request on).Ends (s.RunError request on) fun _ => True := by
  have told {w : Work α (Attribution α)} (ends : w.Ends (s.RunError request on) fun _ => True)
      (e : Attribution α → Event α) :
      (do let done ← w; Work.note (e done); return done).Ends (s.RunError request on)
        fun _ => True :=
    ends.bind fun done _ => .bind (.note _) fun _ _ => Work.Ends.pure trivial
  unfold attribution
  cases identity : request.curve with
  | quoted curve => exact told (ends_attributeQuoted identity lead) _
  | implied curve construction => exact told (ends_attributeImplied identity lead bounded) _

/-- If the fetched window is in range and can be walked to its end, then a run does not abort, and
it fails in few ways. Values fail it only by a zero exchange rate; only a quoted run that converts
finds a date unsampled; only an implied run is cancelled or finds disorder; and the returns of this
library fail only by a zero with a successor. The check of a series accepts the dates and values of
one, and that of a matrix its parts, so neither fails a run. -/
theorem run_fails_as_documented {fetched : DateWindow}
    (lead : request.window.fetched? = some fetched) (bounded : request.window.last < Date.last)
    (context : ValuationContext) (tokens : Tokens) :
    (s.run request context tokens).1 ≠ .error .aborted ∧
      (∀ e, (s.run request context tokens).1 = .error (.failed e) →
        (∀ v, e = .value v → ∃ d, v = .zeroSample d ∧ s.ZeroRate request d) ∧
        (∀ d, e = .misaligned d → s.ConvertsHistories request context.date) ∧
        (∀ d, e = .cancelled d → request.curve.isImplied = true) ∧
        (∀ d tenors, e = .nodeOrder d tenors → request.curve.isImplied = true) ∧
        ∀ kind failure, s.returns = DateSeries.returns kind → e = .sources failure →
          ∀ cause ∈ failure.causes, cause.collaborator = .returnSeries →
            kind = .relative ∧ ∃ levels : DateSeries α, ∃ a ∈ levels.samples.dropLast,
              Quantity.isZero a.2 = true ∧ cause.error = .zeroObservation a.1) ∧
      (∀ series : DateSeries α, DateSeries.new series.dates series.values = .ok series) ∧
      ∀ matrix : PnlMatrix α,
        PnlMatrix.new matrix.keys matrix.labels matrix.series = .ok matrix := by
  have begun : (s.run request context tokens).1 = (s.attribution request context.date).outcome
      (.blank (tokens.isCancelled context.token)) := rfl
  have ends : (s.attribution request context.date).Ends (s.RunError request context.date)
      fun _ => True := ends_attribution lead bounded
  rw [begun]
  refine ⟨ends.not_aborted _, fun e failed => ?_, DateSeries.new_dates_values, PnlMatrix.new_parts⟩
  have documented := ends.of_failed failed
  refine ⟨?_, ?_, ?_, ?_, ?_⟩
  · rintro v rfl
    cases documented with
    | zeroRate zero => exact ⟨_, rfl, zero⟩
  · rintro d rfl
    cases documented with
    | misaligned converts => exact converts
  · rintro d rfl
    cases documented with
    | cancelled implied => exact implied
  · rintro d tenors rfl
    cases documented with
    | nodeOrder implied => exact implied
  · rintro kind failure stock rfl cause member isReturns
    cases documented with
    | sources returns =>
        obtain ⟨levels, failed⟩ := returns cause member isReturns
        rw [stock] at failed
        obtain ⟨relative, a, member, zero, same⟩ := DateSeries.returns_of_error failed
        exact ⟨relative, levels, a, member, zero, same⟩

/-- Rates that would have to be inverted, with a zero among them. -/
def zeroRates : Sources Float :=
  { euroDeposits with
    pair := fun _ => .ok ⟨.usd, .eur⟩
    fxHistory := fun _ _ => .ok ⟨[(.friday, 0.0), (.monday, 2.0)], by decide⟩ }

theorem run_zeroRates :
    mondayInDollars.window.fetched? = some weekToMonday ∧
      mondayInDollars.window.last < Date.last ∧
      (zeroRates.run mondayInDollars ⟨.monday, ⟨0⟩⟩ .none).1 =
        .error (.failed (.value (.zeroSample .friday))) ∧
      zeroRates.ZeroRate mondayInDollars .friday := by
  have lead : mondayInDollars.window.fetched? = some weekToMonday := by decide
  have bounded : mondayInDollars.window.last < Date.last := by decide
  have failed : (zeroRates.run mondayInDollars ⟨.monday, ⟨0⟩⟩ .none).1 =
      .error (.failed (.value (.zeroSample .friday))) := rfl
  obtain ⟨d, same, zero⟩ :=
    ((run_fails_as_documented lead bounded ⟨.monday, ⟨0⟩⟩ .none).2.1 _ failed).1 _ rfl
  cases same
  exact ⟨lead, bounded, failed, zero⟩

end Sources

end CurvePnl
