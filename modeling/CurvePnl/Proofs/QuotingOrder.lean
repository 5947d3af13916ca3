import CurvePnl.Proofs.ConvertedRun
import CurvePnl.Proofs.NativeCurrency
import CurvePnl.Proofs.Questions
import CurvePnl.Proofs.ReplaySteps

/-! # The order in which a pair is quoted

A pair of currencies is quoted in one order only, and its history is inverted where the other order
is wanted. So it does not matter in which order the pair of a conversion is quoted, if the histories
of both orders are the inverse of each other: two runs that differ in nothing else end alike. They
ask for different histories and note different pairs, but what they make of them is the same.
-/

namespace CurvePnl

variable {α : Type}

theorem Currency.rank_inj {a b : Currency} : a.rank = b.rank ↔ a = b :=
  List.idxOf_inj (by cases a <;> decide)

theorem UnorderedPair.of_comm (a b : Currency) : of a b = of b a := by
  unfold of
  by_cases before : a.rank ≤ b.rank
  · by_cases after : b.rank ≤ a.rank
    · have same : a = b := Currency.rank_inj.mp (Nat.le_antisymm before after)
      rw [same]
    · rw [dif_pos before, dif_neg after]
  · have after : b.rank ≤ a.rank := by omega
    rw [dif_neg before, dif_pos after]

namespace Work

variable {β γ δ : Type}

theorem EndsLike.attempt {w w' : Work α β} (alike : w.EndsLike w') :
    w.attempt.EndsLike w'.attempt := by
  intro j j' same
  obtain ⟨outcome, flag⟩ := alike j j' same
  rw [outcome_attempt, outcome_attempt, journal_attempt, journal_attempt, outcome]
  exact ⟨rfl, flag⟩

theorem EndsLike.ask {c c' : Call} {answer : Except SourceError β} {answer' : Except SourceError γ}
    {f : Except SourceError β → Work α δ} {f' : Except SourceError γ → Work α δ}
    (next : (f answer).EndsLike (f' answer')) :
    (Work.ask c answer >>= f).EndsLike (Work.ask c' answer' >>= f') := by
  intro j j' same
  exact next { j with calls := j.calls.push c } { j' with calls := j'.calls.push c' } same

end Work

variable [Quantity α]

/-- The orders in which pairs are quoted, and the histories of the quotations. -/
structure Quotations (α : Type) where
  pair : UnorderedPair → Except SourceError CurrencyPair
  fxHistory : CurrencyPair → DateWindow → Except SourceError (DateSeries α)

namespace Sources

/-- The same sources, but with other quotations. -/
def requote (s : Sources α) (q : Quotations α) : Sources α :=
  { s with pair := q.pair, fxHistory := q.fxHistory }

/-- The pair of the native and the output currency is quoted in opposite orders, with histories over
the fetched window of which one is the inverse of the other. The pair of the position is known
either way. -/
structure Requoted (s : Sources α) (q : Quotations α) (request : AttributionRequest)
    (native output : Currency) : Prop where
  position : ∃ p p', s.pair request.position.pair = .ok p ∧ q.pair request.position.pair = .ok p'
  here : s.pair (.of native output) = .ok ⟨native, output⟩
  there : q.pair (.of native output) = .ok ⟨output, native⟩
  histories : ∀ fetched, request.window.fetched? = some fetched →
    ∃ rates rates', s.fxHistory ⟨native, output⟩ fetched = .ok rates ∧
      q.fxHistory ⟨output, native⟩ fetched = .ok rates' ∧ rates'.reciprocal = .ok rates

namespace Requoted

variable {s : Sources α} {q : Quotations α} {request : AttributionRequest}
  {native output : Currency} {fetched : DateWindow} {on : Date}

theorem endsLike_conversionSeries (requoted : s.Requoted q request native output)
    (lead : request.window.fetched? = some fetched) (different : output ≠ native) :
    (s.conversionSeries native output fetched).EndsLike
      ((s.requote q).conversionSeries native output fetched) := by
  obtain ⟨rates, rates', known, known', inverted⟩ := requoted.histories fetched lead
  have here : s.ConversionRates native output fetched rates :=
    ⟨_, _, requoted.here, known, by rw [if_pos rfl]⟩
  have there : (s.requote q).ConversionRates native output fetched rates :=
    ⟨_, _, requoted.there, known', by rw [if_neg different]; exact inverted⟩
  refine (blind_conversionSeries _ _ _ _).endsLike (blind_conversionSeries _ _ _ _) ?_
  rw [Work.alone, Work.alone, (outcome_conversionSeries_eq_ok _).mpr here,
    (outcome_conversionSeries_eq_ok _).mpr there]

theorem endsLike_pnlConversion (requoted : s.Requoted q request native output)
    (lead : request.window.fetched? = some fetched) (mode : ConversionMode) :
    (s.pnlConversion native (some output) mode fetched on).EndsLike
      ((s.requote q).pnlConversion native (some output) mode fetched on) := by
  unfold pnlConversion
  cases needed : conversionNeeded native (some output) with
  | none => exact (Work.Blind.pure _).flagDetermined
  | some target =>
      obtain ⟨asked, different⟩ := conversionNeeded_eq_some.mp needed
      cases asked
      cases mode with
      | historicalSpot =>
          exact (requoted.endsLike_conversionSeries lead different).bind fun _ _ _ =>
            (Work.Blind.pure _).flagDetermined
      | snapshot =>
          exact (Work.Blind.bind (.bind (.ask _ _) fun _ => .require _ _ _) fun _ =>
            .pure _).flagDetermined

theorem endsLike_quotedConversion (requoted : s.Requoted q request native output)
    (lead : request.window.fetched? = some fetched) :
    (s.quotedConversion native (some output) fetched).EndsLike
      ((s.requote q).quotedConversion native (some output) fetched) := by
  unfold quotedConversion
  cases needed : conversionNeeded native (some output) with
  | none => exact (Work.Blind.pure _).flagDetermined
  | some target =>
      obtain ⟨asked, different⟩ := conversionNeeded_eq_some.mp needed
      cases asked
      simp only [← bind_pure_comp]
      exact (requoted.endsLike_conversionSeries lead different).bind fun _ _ _ =>
        (Work.Blind.pure _).flagDetermined

theorem endsLike_quotedInputs (requoted : s.Requoted q request native output)
    (curve : CurveName) :
    (s.quotedInputs request curve on).EndsLike
      ((s.requote q).quotedInputs request curve on) := by
  obtain ⟨p, p', known, known'⟩ := requoted.position
  apply Work.EndsLike.ask
  apply Work.EndsLike.ask
  apply Work.EndsLike.ask
  simp only [known, requote, known']
  cases s.sensitivities request.position on with
  | error e => exact (Work.Blind.fail _).flagDetermined
  | ok bundle =>
      cases s.specification curve on with
      | error e => exact (Work.Blind.fail _).flagDetermined
      | ok specification => exact (Work.Blind.pure _).flagDetermined

theorem endsLike_impliedInputs
    (requoted : s.Requoted q request request.curveCurrency output)
    (asked : request.outputCurrency = some output) :
    (s.impliedInputs request on).EndsLike
      ((s.requote q).impliedInputs request on) := by
  obtain ⟨p, p', known, known'⟩ := requoted.position
  unfold impliedInputs
  apply Work.EndsLike.ask
  apply Work.EndsLike.ask
  apply Work.EndsLike.bind (Work.Blind.inRange _).flagDetermined
  intro j fetched found
  have lead := Work.outcome_inRange_eq_ok.mp found
  rw [asked]
  apply (requoted.endsLike_pnlConversion lead request.mode).attempt.bind
  intro j conversion _
  simp only [known, requote, known']
  cases s.sensitivities request.position on with
  | error e => exact (Work.Blind.fail _).flagDetermined
  | ok bundle =>
      cases conversion with
      | error e => exact (Work.Blind.fail _).flagDetermined
      | ok conversion => exact (Work.Blind.pure _).flagDetermined

theorem endsLike_attributeQuoted (requoted : s.Requoted q request native output)
    (asked : request.outputCurrency = some output) {curve : CurveName}
    (isNative : ∀ bundle matched, s.sensitivities request.position on = .ok bundle →
      bundle.matched? curve = some matched → matched.currency = native) :
    (s.attributeQuoted request curve on).EndsLike
      ((s.requote q).attributeQuoted request curve on) := by
  rw [attributeQuoted_eq, attributeQuoted_eq]
  apply (requoted.endsLike_quotedInputs curve).bind
  intro j inputs found
  obtain ⟨-, sensitivities, -⟩ := s.outcome_quotedInputs_eq_ok.mp found
  apply Work.EndsLike.bind (Work.Blind.flagDetermined (inputs.1.blind_matchCurve curve))
  intro j matched counts
  have same := isNative _ _ sensitivities (SensitivityBundle.outcome_matchCurve_eq_ok.mp counts)
  subst same
  apply Work.EndsLike.bind (Work.Blind.checkCount _ _ _).flagDetermined
  intro _ _ _
  apply Work.EndsLike.bind (Work.Blind.inRange _).flagDetermined
  intro j fetched found
  rw [asked]
  apply (requoted.endsLike_quotedConversion (Work.outcome_inRange_eq_ok.mp found)).bind
  intro _ conversion _
  have columns := Work.Blind.mapM (fun q : CurveNode × α =>
    s.blind_quotedColumn request curve fetched conversion q.1 q.2)
  exact (Work.Blind.bind (columns _) fun _ => .pure _).flagDetermined

theorem endsLike_attributeImplied
    (requoted : s.Requoted q request request.curveCurrency output)
    (asked : request.outputCurrency = some output) (curve : CurveName)
    (construction : ConstructionName) :
    (s.attributeImplied request curve construction on).EndsLike
      ((s.requote q).attributeImplied request curve construction on) := by
  rw [attributeImplied_eq_columns, attributeImplied_eq_columns]
  apply (requoted.endsLike_impliedInputs asked).bind
  rintro j ⟨bundle, conversion⟩ _
  have curves (setup : ReplaySetup) (window : DateWindow) :
      (s.requote q).replay setup window = s.replay setup window := replay_congr (by rfl) setup window
  simp only [curves]
  apply Work.EndsLike.bind (flagDetermined_replay { construction } request.window)
  intro _ history _
  apply Work.EndsLike.bind (Work.Blind.note _).flagDetermined
  intro _ _ _
  apply Work.EndsLike.bind (bundle.blind_matchCurve curve).flagDetermined
  intro _ matched _
  apply Work.EndsLike.bind (Work.Blind.checkCount _ _ _).flagDetermined
  intro _ _ _
  have columns := Work.Blind.mapM (fun q : (Tenor × DateSeries α) × α =>
    s.blind_impliedColumn request curve conversion q.1.1 q.1.2 q.2)
  exact (Work.Blind.bind (columns _) fun _ => .pure _).flagDetermined

end Requoted

/-- The conversion series of both orders ask for one pair and for its history. -/
theorem asks_conversionSeries_of_quoted {s : Sources α} {base quote : Currency}
    (quoted : s.pair (.of base quote) = .ok ⟨base, quote⟩) (window : DateWindow) :
    (s.conversionSeries base quote window).Asks
        [.pair (.of base quote), .fxHistory ⟨base, quote⟩ window] ∧
      (s.conversionSeries quote base window).Asks
        [.pair (.of base quote), .fxHistory ⟨base, quote⟩ window] := by
  have calls := s.asks_conversionSeries base quote window
  have calls' := s.asks_conversionSeries quote base window
  rw [seriesCalls, UnorderedPair.of_comm, quoted] at calls'
  rw [seriesCalls, quoted] at calls
  exact ⟨calls, calls'⟩

theorem outcome_conversionSeries_against {s : Sources α} {base quote : Currency}
    (different : base ≠ quote) (quoted : s.pair (.of base quote) = .ok ⟨base, quote⟩)
    {window : DateWindow} {history : DateSeries α}
    (found : s.fxHistory ⟨base, quote⟩ window = .ok history) (j : Journal α) :
    (s.conversionSeries quote base window).outcome j =
      (Work.ofValues history.reciprocal : Work α _).alone := by
  have quoted' : s.pair (.of quote base) = .ok ⟨base, quote⟩ := by
    rw [UnorderedPair.of_comm, quoted]
  simp only [conversionSeries, askPair, quoted', askFxHistory, found, Work.require,
    Work.outcome_bind_of_ok (Work.outcome_ask _ _ _), pure_bind,
    Work.outcome_bind_of_ok (Work.outcome_note _ _), if_neg different]
  exact (Work.Blind.ofValues _).outcome_eq _

/-- The order in which the pair of a conversion is quoted does not matter: a run ends in the same
way if the pair is quoted in the other order, with the inverse history. Where the order is given,
both conversions of the pair ask for the same history. It is the conversion in the one direction,
and its inverse is that in the other, if it has one. -/
theorem run_in_either_quoting_order (s : Sources α) :
    (∀ (q : Quotations α) (request : AttributionRequest) (context : ValuationContext)
        (tokens : Tokens) (native output : Currency), s.IsNative request context.date native →
        request.outputCurrency = some output → s.Requoted q request native output →
        (s.run request context tokens).1 =
          ((s.requote q).run request context tokens).1) ∧
      ∀ (base quote : Currency) (window : DateWindow), base ≠ quote →
        s.pair (.of base quote) = .ok ⟨base, quote⟩ →
        (s.conversionSeries base quote window).Asks
            [.pair (.of base quote), .fxHistory ⟨base, quote⟩ window] ∧
          (s.conversionSeries quote base window).Asks
            [.pair (.of base quote), .fxHistory ⟨base, quote⟩ window] ∧
          ∀ history, s.fxHistory ⟨base, quote⟩ window = .ok history → ∀ j,
            (s.conversionSeries base quote window).outcome j = .ok history ∧
              ((∀ v ∈ history.values, Quantity.isZero v = false) →
                ∃ inverse, history.reciprocal = .ok inverse ∧
                  (s.conversionSeries quote base window).outcome j = .ok inverse) ∧
              ((∃ v ∈ history.values, Quantity.isZero v = true) →
                ∃ d v, (d, v) ∈ history.samples ∧ Quantity.isZero v = true ∧
                  (s.conversionSeries quote base window).outcome j =
                    .error (.failed (.value (.zeroSample d)))) := by
  refine ⟨?runs, ?conversions⟩
  case runs =>
    intro q request context tokens native output isNative asked requoted
    rw [run_fst_eq, run_fst_eq]
    unfold IsNative at isNative
    cases identity : request.curve with
    | quoted curve =>
        rw [identity] at isNative
        exact (requoted.endsLike_attributeQuoted asked isNative _ _ rfl).1
    | implied curve construction =>
        rw [identity] at isNative
        subst isNative
        exact (requoted.endsLike_attributeImplied asked curve construction _ _ rfl).1
  case conversions =>
    intro base quote window different quoted
    obtain ⟨asks, asks'⟩ := asks_conversionSeries_of_quoted quoted window
    refine ⟨asks, asks', fun history found j => ⟨?along, ?against, ?zero⟩⟩
    case along =>
      exact (outcome_conversionSeries_eq_ok _).mpr ⟨_, _, quoted, found, by rw [if_pos rfl]⟩
    case against =>
      intro nonzero
      have inverted := DateSeries.reciprocal_of_nonzero nonzero
      refine ⟨_, inverted, ?_⟩
      rw [outcome_conversionSeries_against different quoted found, inverted]
      rfl
    case zero =>
      intro zero
      obtain ⟨d, v, member, zero, failed⟩ := DateSeries.reciprocal_of_zero zero
      refine ⟨d, v, member, zero, ?_⟩
      rw [outcome_conversionSeries_against different quoted found, failed]
      rfl

/-- The inverse of the history of the euro deposits. -/
def inverseRates : DateSeries Float := ⟨[(.friday, 1.0), (.monday, 0.5)], by decide⟩

theorem reciprocal_inverseRates :
    inverseRates.reciprocal = .ok ⟨[(.friday, 1.0), (.monday, 2.0)], by decide⟩ := by
  rw [DateSeries.reciprocal_of_nonzero (by decide +kernel)]
  exact congrArg Except.ok (DateSeries.ext_samples (by decide +kernel))

/-- Dollars are quoted in euros. -/
def dollarsFirst : Quotations Float := ⟨fun _ => .ok ⟨.usd, .eur⟩, fun _ _ => .ok inverseRates⟩

theorem requoted_euroDeposits : euroDeposits.Requoted dollarsFirst mondayInDollars .eur .usd where
  position := ⟨_, _, rfl, rfl⟩
  here := rfl
  there := rfl
  histories _ _ := ⟨_, inverseRates, rfl, rfl, reciprocal_inverseRates⟩

/-- The euro deposits, but euros are worth nothing on Monday. -/
def worthlessMonday : Sources Float :=
  euroDeposits.requote
    ⟨euroDeposits.pair, fun _ _ => .ok ⟨[(.monday, 0.0)], List.pairwise_singleton _ _⟩⟩

theorem run_euroDeposits_in_either_quoting_order :
    euroDeposits.IsNative mondayInDollars .monday .eur ∧
      mondayInDollars.outputCurrency = some .usd ∧
      euroDeposits.Requoted dollarsFirst mondayInDollars .eur .usd ∧
      (((euroDeposits.requote dollarsFirst).run mondayInDollars ⟨.monday, ⟨0⟩⟩ .none).1.map
          fun a => a.matrix.columns.map (·.series.samples)) =
        .ok [[(.monday, 20.0)], [(.monday, 40.0)]] ∧
      (∃ inverse, ∀ j,
        (euroDeposits.conversionSeries .usd .eur weekToMonday).outcome j = .ok inverse) ∧
      ∀ j, (worthlessMonday.conversionSeries .usd .eur weekToMonday).outcome j =
        .error (.failed (.value (.zeroSample .monday))) := by
  have native : euroDeposits.IsNative mondayInDollars .monday .eur := by
    intro bundle matched answered counts
    cases answered
    cases counts
    rfl
  obtain ⟨runs, conversions⟩ := run_in_either_quoting_order euroDeposits
  have alike := runs dollarsFirst mondayInDollars ⟨.monday, ⟨0⟩⟩ .none .eur .usd native rfl
    requoted_euroDeposits
  obtain ⟨-, -, sampled⟩ := conversions .eur .usd weekToMonday (by decide) rfl
  obtain ⟨-, -, worthless⟩ := (run_in_either_quoting_order worthlessMonday).2 .eur .usd weekToMonday
    (by decide) rfl
  refine ⟨native, rfl, requoted_euroDeposits, ?_, ?_, fun j => ?_⟩
  · rw [← alike]
    decide +kernel
  · obtain ⟨inverse, inverted, -⟩ := (sampled _ rfl (.blank false)).2.1 (by decide +kernel)
    refine ⟨inverse, fun j => ?_⟩
    obtain ⟨inverse', inverted', ok⟩ := (sampled _ rfl j).2.1 (by decide +kernel)
    rw [inverted] at inverted'
    cases inverted'
    exact ok
  · obtain ⟨d, v, member, -, failed⟩ :=
      (worthless _ rfl j).2.2 ⟨0.0, List.mem_singleton_self _, by decide +kernel⟩
    cases List.mem_singleton.mp member
    exact failed

end Sources

end CurvePnl
