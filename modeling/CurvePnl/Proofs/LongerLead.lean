import CurvePnl.Proofs.LongerHistories
import CurvePnl.Proofs.LongerReplay

/-! # Longer leads

A run that fetches more than the week before its window meets more in three places: in the histories
that it trims, in the exchange rates that it inverts, and on the days that it replays. If the lead
week holds a base sample of every history then they are trimmed to the same. A zero among the
earlier rates fails the run, and so does an earlier day that cancels it, is out of order, or reports
a tenor that no later day does. Where none of this happens, the run ends as it does with the lead of
a week.
-/

namespace CurvePnl.Sources

variable {α : Type} [Quantity α] {s : Sources α} {longer fetched : DateWindow}
  {native output : Currency} {request : AttributionRequest} {on : Date}

/-- Returns are dated by days of what they are taken of. -/
def DatesReturns (s : Sources α) : Prop :=
  ∀ levels moves, s.returns levels = .ok moves → ∀ d ∈ moves.dates, d ∈ levels.dates

/-- Spot rates from before the shorter window are divided by without a failure, and convert no
profit and loss. -/
structure SpotSettled (s : Sources α) (native output : Currency) (longer fetched : DateWindow) :
    Prop where
  inverts : s.InvertsEarlier native output longer fetched
  divides : ∀ rates, s.ConversionRates native output longer rates →
    rates.NonzeroBefore fetched.first
  dates : s.DatesReturns

/-- Nothing that only the longer lead of a run on an implied curve brings fails it or adds to its
tenors. -/
structure ReplaySettled (s : Sources α) (request : AttributionRequest)
    (construction : ConstructionName) (longer fetched : DateWindow) : Prop where
  calm : ∀ d ∈ longer.days, d < fetched.first → s.Calm construction d
  reported : ∀ tenor, s.Reported construction longer.days tenor →
    s.Reported construction fetched.days tenor
  spot : request.mode = .historicalSpot → ∀ output, request.outputCurrency = some output →
    output ≠ request.curveCurrency → s.SpotSettled request.curveCurrency output longer fetched

variable {construction : ConstructionName}

omit [Quantity α] in
theorem agree_snapshotRate (native output : Currency) (on : Date) :
    Work.Agree Eq (s.snapshotRate native output on) (s.snapshotRate native output on) := by
  refine .bind (.ask _ _) fun _ _ told => ?_
  obtain ⟨rfl, rfl⟩ := told
  exact (Work.Agree.require _ _ _).mono fun _ _ same => same.2

theorem agree_pnlConversion (cuts : s.CutsHistories) (lengthens : longer.Lengthens fetched)
    (settled : s.ReplaySettled request construction longer fetched) :
    Work.Agree
      (fun c c' => c.CutTo fetched c' ∧ ∀ rates, c = .historicalSpot rates → s.DatesReturns)
      (s.pnlConversion request.curveCurrency request.outputCurrency request.mode longer on)
      (s.pnlConversion request.curveCurrency request.outputCurrency request.mode fetched on) := by
  unfold pnlConversion
  split
  · exact .pure ⟨.identity, nofun⟩
  next output needed =>
    obtain ⟨asked, different⟩ := conversionNeeded_eq_some.mp needed
    cases mode : request.mode with
    | historicalSpot =>
        have spot := settled.spot mode output asked different
        refine .bind (agree_conversionSeries cuts lengthens spot.inverts)
          fun rates _ ⟨cut, found⟩ => .pure ?_
        rw [← cut]
        exact ⟨.historicalSpot (spot.divides rates found) (lengthens.ends ▸ found.le_last cuts),
          fun _ _ => spot.dates⟩
    | snapshot =>
        refine .bind (agree_snapshotRate _ _ on) fun rate _ same => .pure ?_
        rw [← same]
        exact ⟨.snapshot, nofun⟩

theorem agree_impliedInputs {weeks : Nat} (on : Date) (cuts : s.CutsHistories)
    (lengthens : longer.Lengthens fetched)
    (leads : request.window.fetched? weeks = some longer)
    (lead : request.window.fetched? = some fetched)
    (settled : s.ReplaySettled request construction longer fetched) :
    Work.Agree
      (fun i i' => i.1 = i'.1 ∧ i.2.CutTo fetched i'.2 ∧
        ∀ rates, i.2 = .historicalSpot rates → s.DatesReturns)
      (s.impliedInputs request on weeks) (s.impliedInputs request on) := by
  refine .bind (.ask _ _) fun pair _ paired => .bind (.ask _ _) fun bundle _ bundled =>
    .bind_left (.inRange leads) fun _ here => .bind_right (.inRange lead) fun _ here' => ?_
  subst here here'
  refine .bind (agree_pnlConversion cuts lengthens settled).attempt fun conversion _ alike => ?_
  obtain ⟨rfl, rfl⟩ := paired
  obtain ⟨rfl, rfl⟩ := bundled
  cases s.pair request.position.pair with
  | error e => cases alike <;> exact .fail _
  | ok pair =>
      cases s.sensitivities request.position on with
      | error e => cases alike <;> exact .fail _
      | ok bundle =>
          cases alike with
          | error e => exact .fail _
          | ok related => exact .pure ⟨rfl, related⟩

theorem agree_impliedColumn {curve : CurveName} {c c' : Conversion α} (cut : c.CutTo fetched c')
    (dates : ∀ rates, c = .historicalSpot rates → s.DatesReturns) {q q' : Tenor × DateSeries α}
    (alike : TrimmedAlike request.window.first fetched q q') (sensitivity : α) :
    Work.Agree Eq (s.impliedColumn request curve c q.1 q.2 sensitivity)
      (s.impliedColumn request curve c' q'.1 q'.2 sensitivity) := by
  unfold impliedColumn
  rw [alike.tenor, alike.trimmed]
  refine .bind (agree_convertedReturns _ none) fun moves _ ⟨same, taken⟩ => ?_
  subst same
  obtain ⟨levels, unconverted, taken⟩ := taken
  rw [ConvertedLevels.none_iff.mp unconverted] at taken
  refine .bind (cut.agree_apply fun spot isSpot d dated => ?_) fun pnl _ same =>
    .bind_left (.note _) fun _ _ => .bind_right (.note _) fun _ _ => .pure ?_
  · rw [DateSeries.scale, DateSeries.dates_mapValues] at dated
    obtain ⟨a, left, rfl⟩ := List.mem_map.mp (dates spot isSpot _ _ taken d dated)
    exact alike.inside a.1 (List.mem_map_of_mem (DateSeries.mem_trimTo.mp left).1)
  · rw [same]

theorem agree_impliedColumns {curve : CurveName} {c c' : Conversion α} (cut : c.CutTo fetched c')
    (dates : ∀ rates, c = .historicalSpot rates → s.DatesReturns)
    {buckets buckets' : List (Tenor × DateSeries α)}
    (alike : List.Forall₂ (TrimmedAlike request.window.first fetched) buckets buckets')
    (vector : List α) :
    Work.Agree Eq
      ((buckets.zip vector).mapM fun ((tenor, rates), sensitivity) =>
        s.impliedColumn request curve c tenor rates sensitivity)
      ((buckets'.zip vector).mapM fun ((tenor, rates), sensitivity) =>
        s.impliedColumn request curve c' tenor rates sensitivity) := by
  have piece (p p' : (Tenor × DateSeries α) × α)
      (item : TrimmedAlike request.window.first fetched p.1 p'.1 ∧ p.2 = p'.2) :
      Work.Agree Eq (s.impliedColumn request curve c p.1.1 p.1.2 p.2)
        (s.impliedColumn request curve c' p'.1.1 p'.1.2 p'.2) := by
    rw [item.2]
    exact agree_impliedColumn cut dates item.1 _
  have columns := Work.Agree.mapM (Work.forall₂_zip_left alike vector) piece
  rw [List.forall₂_eq_eq_eq] at columns
  exact columns

theorem outcome_attributeImplied_eq {curve : CurveName} {weeks : Nat} (cuts : s.CutsHistories)
    (lengthens : longer.Lengthens fetched)
    (leads : request.window.fetched? weeks = some longer)
    (lead : request.window.fetched? = some fetched)
    (sampled : ∀ tenor, s.Reported construction fetched.days tenor →
      ∃ a ∈ s.harvest construction fetched.days tenor, a.1 < request.window.first)
    (settled : s.ReplaySettled request construction longer fetched) {j j' : Journal α}
    (live : j.cancelled = false) (live' : j'.cancelled = false) :
    (s.attributeImplied request curve construction on weeks).outcome j =
      (s.attributeImplied request curve construction on).outcome j' := by
  have calm : ((s.impliedInputs request on weeks).journal j).cancelled = false :=
    ((s.blind_impliedInputs request on weeks).keepsFlag j).trans live
  have calm' : ((s.impliedInputs request on).journal j').cancelled = false :=
    (s.keepsFlag_impliedInputs request on j').trans live'
  have bounded : request.window.first ≤ fetched.last := by
    rw [(DateWindow.fetched?_eq_some.mp lead).2]
    exact request.window.first_le_last
  rw [s.attributeImplied_eq_columns request curve construction on weeks,
    s.attributeImplied_eq_columns request curve construction on]
  rcases agree_impliedInputs on cuts lengthens leads lead settled j j' with
    ⟨⟨bundle, c⟩, ⟨_, c'⟩, ok, ok', rfl, cut, dates⟩ | ⟨e, failed, failed'⟩
  · rw [Work.outcome_bind_of_ok ok, Work.outcome_bind_of_ok ok']
    -- A replay depends on the flag of its journal, so its outcomes are compared from there on.
    rcases replay_alike { construction } leads lead lengthens settled.calm calm calm' with
      ⟨history, history', ran, ran'⟩ | ⟨e, ended, ended'⟩
    · have alike := trimmedAlike_sortedSeries (replayed_of_replay leads ran)
        (replayed_of_replay lead ran') lengthens bounded settled.reported sampled
      rw [Work.outcome_bind_of_ok ran, Work.outcome_bind_of_ok ran']
      refine Work.Agree.outcome_eq ?_ _ _
      refine .bind_left (.note _) fun _ _ => .bind_right (.note _) fun _ _ =>
        .bind (.matchCurve _ _) fun matched _ ⟨same, _⟩ => ?_
      subst same
      dsimp only
      rw [alike.length_eq]
      refine .bind (.checkCount _ _ _) fun _ _ _ =>
        .bind (agree_impliedColumns cut dates alike matched.vector) fun columns _ same => .pure ?_
      rw [same]
    · rw [Work.outcome_bind_of_error ended, Work.outcome_bind_of_error ended']
  · rw [Work.outcome_bind_of_error failed, Work.outcome_bind_of_error failed']

/-- The week before the window has a sample of every history that a run trims: of every node of a
quoted curve, or of every tenor that an implied curve reports from then on. -/
def SamplesLead (s : Sources α) (request : AttributionRequest) (on : Date) (fetched : DateWindow) :
    Prop :=
  match request.curve with
  | .quoted curve => ∀ specification, s.specification curve on = .ok specification →
      ∀ node ∈ specification.nodes, ∀ history, s.nodeHistory node fetched = .ok history →
        ∃ a ∈ history.samples, a.1 < request.window.first
  | .implied _ construction => ∀ tenor, s.Reported construction fetched.days tenor →
      ∃ a ∈ s.harvest construction fetched.days tenor, a.1 < request.window.first

/-- Nothing that only the longer lead of a run brings fails it or adds a column. -/
def LeadSettled (s : Sources α) (request : AttributionRequest) (on : Date)
    (longer fetched : DateWindow) : Prop :=
  match request.curve with
  | .quoted curve => ∀ bundle matched output, s.sensitivities request.position on = .ok bundle →
      bundle.matched? curve = some matched → request.outputCurrency = some output →
      output ≠ matched.currency → s.InvertsEarlier matched.currency output longer fetched
  | .implied _ construction => s.ReplaySettled request construction longer fetched

theorem live_of_run {context : ValuationContext} {tokens : Tokens} {weeks : Nat} {a : Attribution α}
    (ok : (s.run request context tokens weeks).1 = .ok a) (implied : request.curve.isImplied = true) :
    tokens.isCancelled context.token = false := by
  rw [s.run_fst_eq request context tokens weeks] at ok
  cases curve : request.curve with
  | quoted curve' =>
      rw [curve] at implied
      cases implied
  | implied curve' construction =>
      rw [curve] at ok
      obtain ⟨inputs, -, ok⟩ := Work.outcome_bind_eq_ok.mp ok
      obtain ⟨history, ran, -⟩ := Work.outcome_bind_eq_ok.mp ok
      obtain ⟨_, -, completes, -⟩ := completes_of_replay ran
      exact ((s.blind_impliedInputs request context.date weeks).keepsFlag _).symm.trans
        completes.live

/-- A run with a longer lead ends as that with the lead of a week. -/
theorem run_fst_of_settled {context : ValuationContext} (tokens : Tokens) {weeks : Nat}
    (atLeast : 1 ≤ weeks) (leads : request.window.fetched? weeks = some longer)
    (lead : request.window.fetched? = some fetched) (cuts : s.CutsHistories)
    (sampled : s.SamplesLead request context.date fetched)
    (settled : s.LeadSettled request context.date longer fetched)
    (live : request.curve.isImplied = true → tokens.isCancelled context.token = false) :
    (s.run request context tokens weeks).1 = (s.run request context tokens).1 := by
  have lengthens := DateWindow.lengthens_of_fetched? atLeast leads lead
  rw [s.run_fst_eq request context tokens weeks, s.run_fst_eq request context tokens]
  cases curve : request.curve with
  | quoted curve' =>
      rw [SamplesLead, curve] at sampled
      rw [LeadSettled, curve] at settled
      exact (agree_attributeQuoted cuts lengthens leads lead sampled settled).outcome_eq _ _
  | implied curve' construction =>
      rw [SamplesLead, curve] at sampled
      rw [LeadSettled, curve] at settled
      have calm : tokens.isCancelled context.token = false := live (by rw [curve]; rfl)
      exact outcome_attributeImplied_eq cuts lengthens leads lead sampled settled calm calm

/-- A trim leaves the end of a series: the last sample before the start, if there is one, and all
that are not before it. It leaves the last date, and does nothing a second time or after a trim to
an earlier start. If there is a sample between a day and the start, then cutting off what is before
that day, or less, comes to the same trim. So a run whose lead week has a base sample of every
history yields the same attribution with a longer lead, if nothing else that this lead brings fails
it or adds a column. If a replay is not cancelled from the beginning then failures are the same
too. -/
theorem trim_depends_on_base_and_after :
    (∀ (x : DateSeries α) (start : Date),
      (x.trimTo start).samples <:+ x.samples ∧
      (x.trimTo start).samples = (x.samples.filter (·.1 < start)).getLast?.toList ++
        x.samples.filter (start ≤ ·.1) ∧
      (x.trimTo start).trimTo start = x.trimTo start ∧
      (x.trimTo start).lastDate? = x.lastDate? ∧
      (∀ a b last, start ≤ last → a ≤ b → (∃ y ∈ x.samples, b ≤ y.1 ∧ y.1 < start) →
        (x.between a last).trimTo start = (x.between b last).trimTo start) ∧
      ∀ later, start ≤ later → (x.trimTo start).trimTo later = x.trimTo later) ∧
    ∀ (s : Sources α) (request : AttributionRequest) (context : ValuationContext) (tokens : Tokens)
      (weeks : Nat) (longer fetched : DateWindow), 1 ≤ weeks →
      request.window.fetched? weeks = some longer → request.window.fetched? = some fetched →
      s.CutsHistories → s.SamplesLead request context.date fetched →
      s.LeadSettled request context.date longer fetched →
      (∀ a, (s.run request context tokens weeks).1 = .ok a ↔
        (s.run request context tokens).1 = .ok a) ∧
      ((request.curve.isImplied = true → tokens.isCancelled context.token = false) →
        (s.run request context tokens weeks).1 = (s.run request context tokens).1) := by
  refine ⟨?trims, ?runs⟩
  case trims =>
    intro x start
    refine ⟨x.samples_trimTo_suffix start, x.samples_trimTo start,
      x.trimTo_trimTo (Int.le_refl _), x.lastDate?_trimTo start, ?_, fun later => x.trimTo_trimTo⟩
    intro a b last bounded longer base
    exact DateSeries.trimTo_between bounded longer base
  case runs =>
    intro s request context tokens weeks longer fetched atLeast leads lead cuts sampled settled
    have same := run_fst_of_settled tokens atLeast leads lead cuts sampled settled
    refine ⟨fun a => ⟨fun ok => ?_, fun ok => ?_⟩, same⟩
    · rwa [same (live_of_run ok)] at ok
    · rwa [same (live_of_run ok)]

theorem not_ok_of_more_tenors {curve : CurveName} {context : ValuationContext} {tokens : Tokens}
    {weeks : Nat} {bundle : SensitivityBundle α} {matched : MatchedSensitivity α}
    {tenors : List Tenor} (implied : request.curve = .implied curve construction)
    (leads : request.window.fetched? weeks = some longer)
    (bundled : s.sensitivities request.position context.date = .ok bundle)
    (counts : bundle.matched? curve = some matched) (distinct : tenors.Nodup)
    (reported : ∀ t ∈ tenors, s.Reported construction longer.days t)
    (more : matched.vector.length < tenors.length) (a : Attribution α) :
    (s.run request context tokens weeks).1 ≠ .ok a := by
  intro ok
  rw [s.run_fst_eq request context tokens weeks, implied] at ok
  dsimp only at ok
  rw [s.attributeImplied_eq_columns request curve construction context.date weeks] at ok
  obtain ⟨⟨bundle', c⟩, inputs, ok⟩ := Work.outcome_bind_eq_ok.mp ok
  obtain ⟨-, bundled', -⟩ := s.outcome_impliedInputs_eq_ok.mp inputs
  rw [bundled] at bundled'
  cases bundled'
  obtain ⟨history, ran, ok⟩ := Work.outcome_bind_eq_ok.mp ok
  have replayed := replayed_of_replay leads ran
  obtain ⟨_, -, ok⟩ := Work.outcome_bind_eq_ok.mp ok
  obtain ⟨matched', found, ok⟩ := Work.outcome_bind_eq_ok.mp ok
  rw [SensitivityBundle.outcome_matchCurve_eq_ok, counts] at found
  cases found
  obtain ⟨_, count, -⟩ := Work.outcome_bind_eq_ok.mp ok
  rw [Work.outcome_checkCount_eq_ok] at count
  have found : tenors ⊆ history.buckets.sortedSeries.map (·.1) :=
    fun t member => replayed.mem_tenors.mpr (reported t member)
  have bound := (List.subperm_of_subset distinct found).length_le
  rw [List.length_map, count] at bound
  omega

/-- New Year, in the second week before Monday. -/
def newYear : Date := ⟨739557, by decide, by decide⟩

/-- Levels on New Year and in the week before Monday. -/
def newYearLevels : DateSeries Float :=
  ⟨[(newYear, 1.0), (.friday, 2.0), (.monday, 3.0)], by decide⟩

/-- Two weeks and a day, up to Monday. -/
def weeksToMonday : DateWindow := ⟨⟨739555, by decide, by decide⟩, .monday, by decide⟩

/-- Euros in dollars, with a rate on New Year. -/
def newYearRates (rate : Float) : DateSeries Float :=
  ⟨[(newYear, rate), (.friday, 1.0), (.monday, 2.0)], by simp; decide⟩

/-- The sparse curve and the nodes of the euro deposits, with a rate and a construction on New
Year. The rates are quoted the other way round. -/
def sinceNewYear (rate : Float) (built : Construction Float) : Sources Float :=
  { sparseDeposits with
    pair := fun _ => .ok ⟨.usd, .eur⟩
    specification := euroDeposits.specification
    nodeHistory := fun _ w => .ok (newYearLevels.between w.first w.last)
    fxHistory := fun _ w => .ok ((newYearRates rate).between w.first w.last)
    impliedCurve := fun construction day =>
      if day = newYear then built else sparseDeposits.impliedCurve construction day }

/-- One of the tenors of the sparse curve. -/
def oneYear : Construction Float := ⟨.ok ⟨[(⟨.years, 1⟩, 1.5)]⟩, false⟩

theorem cutsHistories_sinceNewYear (rate : Float) (built : Construction Float) :
    (sinceNewYear rate built).CutsHistories where
  nodes _ := ⟨.ok newYearLevels, fun _ => rfl⟩
  rates _ := ⟨.ok (newYearRates rate), fun _ => rfl⟩

theorem samplesLead_nodes (rate : Float) (built : Construction Float) :
    (sinceNewYear rate built).SamplesLead mondayInDollars .monday weekToMonday := by
  rintro specification - node - history ⟨⟩
  refine ⟨(.friday, 2.0), DateSeries.mem_samples_between.mpr ⟨?_, by decide, by decide⟩, by decide⟩
  exact List.mem_cons_of_mem _ List.mem_cons_self

theorem impliedCurve_of_ne_newYear (rate : Float) (built : Construction Float) {d : Date}
    (other : d ≠ newYear) : (sinceNewYear rate built).impliedCurve "OIS" d =
      sparseCurve.impliedCurve "OIS" d :=
  if_neg other

theorem ne_newYear {d : Date} (inside : d ∈ weekToMonday.days) : d ≠ newYear := by
  rintro rfl
  exact absurd (DateWindow.mem_days.mp inside).1 (by decide)

theorem samplesLead_tenors (rate : Float) (built : Construction Float) :
    (sinceNewYear rate built).SamplesLead spotMonday .monday weekToMonday := by
  intro tenor reported
  have friday {v : Float}
      (point : (tenor, v) ∈ [((⟨.months, 3⟩ : Tenor), (1.0 : Float)), (⟨.years, 1⟩, 2.0)]) :
      ∃ a ∈ (sinceNewYear rate built).harvest "OIS" weekToMonday.days tenor, a.1 < .monday :=
    ⟨(.friday, v), mem_harvest.mpr ⟨DateWindow.mem_days.mpr (by decide), point⟩,
      (by decide : Date.friday < .monday)⟩
  obtain ⟨d, inside, curve, found, member⟩ := reported
  rw [impliedCurve_of_ne_newYear _ _ (ne_newYear inside)] at found
  rcases List.mem_pair.mp (mem_tenors_sparseCurve found member) with rfl | rfl
  · exact friday List.mem_cons_self
  · exact friday (List.mem_cons_of_mem _ List.mem_cons_self)

theorem nonzero_newYearRates {first last : Date} {a : Sample Float}
    (sampled : a ∈ ((newYearRates 0.5).between first last).samples) :
    Quantity.isZero a.2 = false := by
  have all : ∀ a ∈ (newYearRates 0.5).samples, Quantity.isZero a.2 = false := by decide +kernel
  exact all a (DateSeries.mem_samples_between.mp sampled).1

theorem reciprocal_newYearRates (first last : Date) :
    ∃ rates, ((newYearRates 0.5).between first last).reciprocal = .ok rates ∧
      ∀ a ∈ rates.samples, Quantity.isZero a.2 = false := by
  refine ⟨_, DateSeries.reciprocal_of_nonzero
    (List.forall_mem_map.mpr fun _ => nonzero_newYearRates), ?_⟩
  intro a member
  obtain ⟨b, sampled, rfl⟩ := List.mem_map.mp member
  have all : ∀ b ∈ (newYearRates 0.5).samples,
      Quantity.isZero (Quantity.one / b.2 : Float) = false := by decide +kernel
  exact all b (DateSeries.mem_samples_between.mp sampled).1

theorem spotSettled_sinceNewYear (built : Construction Float) :
    (sinceNewYear 0.5 built).SpotSettled .eur .usd weeksToMonday weekToMonday where
  inverts := by
    rintro pair history ⟨⟩ - ⟨⟩ a sampled -
    exact nonzero_newYearRates sampled
  divides := by
    rintro rates ⟨pair, history, ⟨⟩, ⟨⟩, inverted⟩ a sampled -
    obtain ⟨rates', inverted', nonzero⟩ := reciprocal_newYearRates weeksToMonday.first .monday
    cases inverted.symm.trans inverted'
    exact nonzero a sampled
  dates := by
    rintro levels moves ⟨⟩ d dated
    rw [DateSeries.dates_of_returns (DateSeries.returns_absolute _)] at dated
    exact List.mem_of_mem_tail dated

theorem replaySettled_oneYear :
    (sinceNewYear 0.5 oneYear).ReplaySettled spotMonday "OIS" weeksToMonday weekToMonday where
  calm := by
    rintro d - -
    by_cases first : d = newYear
    · subst first
      refine ⟨rfl, ?_⟩
      rintro _ ⟨⟩
      decide
    · have same := impliedCurve_of_ne_newYear 0.5 oneYear first
      refine ⟨?_, ?_⟩
      · rw [same]
        exact cancels_sparseCurve "OIS" d
      · rw [Ascends, same]
        exact ascends_sparseCurve "OIS" d
  reported := by
    rintro tenor ⟨d, -, curve, found, member⟩
    have known : tenor ∈ [⟨.months, 3⟩, ⟨.years, 1⟩] := by
      by_cases first : d = newYear
      · subst first
        cases found
        exact List.mem_cons_of_mem _ member
      · rw [impliedCurve_of_ne_newYear _ _ first] at found
        exact mem_tenors_sparseCurve found member
    exact ⟨.friday, DateWindow.mem_days.mpr (by decide), _, rfl, known⟩
  spot _ output asked _ := by
    cases asked
    exact spotSettled_sinceNewYear oneYear

theorem trim_newYearLevels :
    (newYearLevels.between Date.first .monday).trimTo .monday =
        (newYearLevels.between weekToMonday.first .monday).trimTo .monday ∧
      (newYearLevels.trimTo .friday).trimTo .monday = newYearLevels.trimTo .monday ∧
      ((sinceNewYear 0.5 oneYear).run mondayInDollars ⟨.monday, ⟨0⟩⟩ .none 2).1 =
        ((sinceNewYear 0.5 oneYear).run mondayInDollars ⟨.monday, ⟨0⟩⟩ .none).1 ∧
      ((sinceNewYear 0.5 oneYear).run spotMonday ⟨.monday, ⟨0⟩⟩ .none 2).1 =
        ((sinceNewYear 0.5 oneYear).run spotMonday ⟨.monday, ⟨0⟩⟩ .none).1 := by
  obtain ⟨trims, runs⟩ := trim_depends_on_base_and_after (α := Float)
  obtain ⟨-, -, -, -, between, -⟩ := trims newYearLevels .monday
  obtain ⟨-, -, -, -, -, twice⟩ := trims newYearLevels .friday
  have base : ∃ a ∈ newYearLevels.samples, weekToMonday.first ≤ a.1 ∧ a.1 < .monday :=
    ⟨(.friday, 2.0), by simp [newYearLevels], by decide, by decide⟩
  have leads : monday.fetched? 2 = some weeksToMonday := by decide
  have lead : monday.fetched? = some weekToMonday := by decide
  have cuts := cutsHistories_sinceNewYear 0.5 oneYear
  refine ⟨between _ _ _ (by decide) (by decide) base, twice _ (by decide), ?quoted, ?implied⟩
  case quoted =>
    refine (runs _ mondayInDollars ⟨.monday, ⟨0⟩⟩ .none 2 _ _ (by decide) leads lead cuts
      (samplesLead_nodes 0.5 oneYear) ?_).2 fun implied => absurd implied (by decide)
    rintro bundle matched output ⟨⟩ ⟨⟩ ⟨⟩ -
    exact (spotSettled_sinceNewYear oneYear).inverts
  case implied =>
    exact (runs _ spotMonday ⟨.monday, ⟨0⟩⟩ .none 2 _ _ (by decide) leads lead cuts
      (samplesLead_tenors 0.5 oneYear) replaySettled_oneYear).2 fun _ => rfl

theorem run_sinceNewYear (rate : Float) (built : Construction Float) :
    ∃ a, ((sinceNewYear rate built).run impliedMonday ⟨.monday, ⟨0⟩⟩ .none).1 = .ok a := by
  have columns : List.Forall₂ (fun q column => sparsePlan.TenorPnl (sinceNewYear rate built)
      impliedMonday "OIS" q.1 q.2 column) [(⟨.months, 3⟩, 10.0), (⟨.years, 1⟩, 20.0)]
      [⟨⟨.months, 3⟩, Tenor.text ⟨.months, 3⟩, (DateSeries.empty.scale 10.0).scale 2.0⟩,
        ⟨⟨.years, 1⟩, Tenor.text ⟨.years, 1⟩,
          ((⟨[(.monday, 0.5)], by decide⟩ : DateSeries Float).scale 20.0).scale 2.0⟩] := by
    refine .cons ?_ (.cons ?_ .nil)
    · exact ⟨⟨[(.friday, 1.0)], by decide⟩, .empty, rfl, rfl, .snapshot, rfl, rfl⟩
    · exact ⟨⟨[(.friday, 2.0), (.monday, 2.5)], by decide⟩, ⟨[(.monday, 0.5)], by decide⟩, rfl,
        congrArg Except.ok (DateSeries.ext_samples (by decide)), .snapshot, rfl, rfl⟩
  have same {d : Date} (inside : d ∈ weekToMonday.days) :
      (sinceNewYear rate built).impliedCurve "OIS" d = sparseCurve.impliedCurve "OIS" d :=
    impliedCurve_of_ne_newYear rate built (ne_newYear inside)
  have resolved : sparsePlan.Resolved (sinceNewYear rate built) impliedMonday "EUR-OIS" "OIS"
      .monday false := by
    refine ⟨⟨_, rfl⟩, rfl, by decide, .snapshot (by decide) rfl, ⟨by decide, rfl, ?_, ?_⟩, rfl,
      by decide, fun tenor => ?_, rfl⟩
    · intro d inside _
      rw [same inside]
      exact cancels_sparseCurve "OIS" d
    · intro d inside
      rw [Ascends, same inside]
      exact ascends_sparseCurve "OIS" d
    · refine (reported_sparseCurve "OIS" tenor).trans (exists_congr fun d => ?_)
      refine and_congr_right fun inside => ?_
      rw [same inside]
  have ran : ((sinceNewYear rate built).attributeImplied impliedMonday "EUR-OIS" "OIS"
      .monday).outcome (.blank false) = .ok ⟨⟨_⟩, .usd⟩ :=
    (outcome_attributeImplied_eq_ok _).mpr ⟨sparsePlan, resolved, rfl, columns⟩
  exact ⟨_, (run_fst_eq_ok _).mpr ran⟩

/-- All rates are returned, whatever the window that is asked for. -/
def unaskedRates : Sources Float :=
  { sinceNewYear 0.0 oneYear with fxHistory := fun _ _ => .ok (newYearRates 0.0) }

/-- A curve whose tenors do not ascend. -/
def disordered : Construction Float := ⟨.ok ⟨[(⟨.years, 1⟩, 1.5), (⟨.months, 3⟩, 1.0)]⟩, false⟩

/-- A construction that fails and cancels the work. -/
def cancelling : Construction Float := ⟨.error ⟨.constructionFailed, "no quotes"⟩, true⟩

/-- A tenor that the sparse curve does not have. -/
def twoYears : Construction Float := ⟨.ok ⟨[(⟨.years, 2⟩, 1.5)]⟩, false⟩

/-- A base sample in the lead week is not enough: with a lead of two weeks, runs that succeed with
that of one week fail for a zero among the earlier rates, also if a source returns these rates
unasked, for disorder or a cancellation on an earlier day, or for a tenor that only an earlier day
reports. -/
theorem longer_lead_fails_runs :
    (monday.fetched? 2 = some weeksToMonday ∧ monday.fetched? = some weekToMonday) ∧
      ((sinceNewYear 0.0 oneYear).CutsHistories ∧
        (sinceNewYear 0.0 oneYear).SamplesLead mondayInDollars .monday weekToMonday ∧
        (∃ a, ((sinceNewYear 0.0 oneYear).run mondayInDollars ⟨.monday, ⟨0⟩⟩ .none).1 = .ok a) ∧
        ((sinceNewYear 0.0 oneYear).run mondayInDollars ⟨.monday, ⟨0⟩⟩ .none 2).1 =
          .error (.failed (.value (.zeroSample newYear))) ∧
        (unaskedRates.run mondayInDollars ⟨.monday, ⟨0⟩⟩ .none).1 =
          .error (.failed (.value (.zeroSample newYear)))) ∧
      ((sinceNewYear 0.5 disordered).SamplesLead impliedMonday .monday weekToMonday ∧
        (∃ a, ((sinceNewYear 0.5 disordered).run impliedMonday ⟨.monday, ⟨0⟩⟩ .none).1 = .ok a) ∧
        ((sinceNewYear 0.5 disordered).run impliedMonday ⟨.monday, ⟨0⟩⟩ .none 2).1 =
          .error (.failed (.nodeOrder newYear [⟨.years, 1⟩, ⟨.months, 3⟩]))) ∧
      ((sinceNewYear 0.5 cancelling).SamplesLead impliedMonday .monday weekToMonday ∧
        (∃ a, ((sinceNewYear 0.5 cancelling).run impliedMonday ⟨.monday, ⟨0⟩⟩ .none).1 = .ok a) ∧
        ∃ next, newYear.succ? = some next ∧
          ((sinceNewYear 0.5 cancelling).run impliedMonday ⟨.monday, ⟨0⟩⟩ .none 2).1 =
            .error (.failed (.cancelled next))) ∧
      (sinceNewYear 0.5 twoYears).SamplesLead impliedMonday .monday weekToMonday ∧
        (∃ a, ((sinceNewYear 0.5 twoYears).run impliedMonday ⟨.monday, ⟨0⟩⟩ .none).1 = .ok a) ∧
        ¬ ∃ a, ((sinceNewYear 0.5 twoYears).run impliedMonday ⟨.monday, ⟨0⟩⟩ .none 2).1 = .ok a := by
  refine ⟨⟨by decide, by decide⟩, ⟨cutsHistories_sinceNewYear _ _, samplesLead_nodes _ _,
    ⟨_, rfl⟩, rfl, rfl⟩, ⟨samplesLead_tenors _ _, run_sinceNewYear _ _, rfl⟩, ⟨samplesLead_tenors _ _,
    run_sinceNewYear _ _, _, rfl, rfl⟩, samplesLead_tenors _ _, run_sinceNewYear _ _, ?_⟩
  rintro ⟨a, ok⟩
  have reported : ∀ t ∈ [(⟨.months, 3⟩ : Tenor), ⟨.years, 1⟩, ⟨.years, 2⟩],
      (sinceNewYear 0.5 twoYears).Reported "OIS" weeksToMonday.days t := by
    intro t member
    rcases List.mem_append.mp (show t ∈ [⟨.months, 3⟩, ⟨.years, 1⟩] ++ [⟨.years, 2⟩] from member) with
      sparse | more
    · exact ⟨.friday, DateWindow.mem_days.mpr (by decide), _, rfl, sparse⟩
    · exact ⟨newYear, DateWindow.mem_days.mpr (by decide), _, rfl, more⟩
  exact not_ok_of_more_tenors rfl (by decide : monday.fetched? 2 = some weeksToMonday) rfl rfl
    (by decide) reported (by decide) a ok

end CurvePnl.Sources
