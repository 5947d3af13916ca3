import CurvePnl.Proofs.Agreement
import CurvePnl.Proofs.Cuts
import CurvePnl.Proofs.ImpliedRun
import CurvePnl.Proofs.QuotedRun

/-! # The same samples on a quoted and on an implied curve

Series that are given whole, one per node, can also be given day by day, as curves of the tenors
that are sampled on the day. A replay of such curves finds the series again, cut to the fetched
window, so a run on the implied curve does what a run on the quoted curve does.
-/

namespace CurvePnl

variable {α : Type}

/-- The points of a day: the tenors that are sampled on it, with their values. -/
def pointsSampledOn (tenors : List Tenor) (series : Tenor → DateSeries α) (d : Date) :
    List (Tenor × α) :=
  tenors.filterMap fun t => ((series t).valueOn? d).map (t, ·)

variable {tenors : List Tenor} {series : Tenor → DateSeries α} {d : Date}

theorem mem_pointsSampledOn {t : Tenor} {v : α} :
    (t, v) ∈ pointsSampledOn tenors series d ↔ t ∈ tenors ∧ (d, v) ∈ (series t).samples := by
  simp only [pointsSampledOn, List.mem_filterMap, Option.map_eq_some_iff,
    DateSeries.valueOn?_eq_some_iff]
  constructor
  · rintro ⟨u, listed, w, sampled, same⟩
    cases same
    exact ⟨listed, sampled⟩
  · rintro ⟨listed, sampled⟩
    exact ⟨t, listed, v, sampled, rfl⟩

theorem ascending_pointsSampledOn (ascending : Ascending tenors) :
    Ascending ((pointsSampledOn tenors series d).map (·.1)) := by
  have sampled : (pointsSampledOn tenors series d).map (·.1) =
      tenors.filter fun t => ((series t).valueOn? d).isSome := by
    simp only [pointsSampledOn, List.map_filterMap, ← List.filterMap_eq_filter]
    refine List.filterMap_congr fun t _ => ?_
    cases sampled : (series t).valueOn? d <;> simp [Option.guard, sampled]
  rw [sampled]
  exact List.Pairwise.sublist List.filter_sublist ascending

namespace Sources

/-- The sources give the same series in two ways. The specification has one unnamed node per tenor,
whose history is the series of the tenor, cut to the window that is asked for. The construction
gives on each day the points that are sampled on it, and fails if there are none. -/
structure SameSamples (s : Sources α) (curve : CurveName) (construction : ConstructionName)
    (on : Date) (fetched : DateWindow) (tenors : List Tenor) (series : Tenor → DateSeries α) :
    Prop where
  ascending : Ascending tenors
  sampled : ∀ t ∈ tenors, ∃ d ∈ (series t).dates, fetched.first ≤ d ∧ d ≤ fetched.last
  specified : ∃ specification, s.specification curve on = .ok specification ∧
    specification.nodes.map (·.maturity) = tenors ∧
    ∀ node ∈ specification.nodes, node.name = none ∧ ∀ window : DateWindow,
      s.nodeHistory node window = .ok ((series node.maturity).between window.first window.last)
  built : ∀ d ∈ fetched.days, pointsSampledOn tenors series d ≠ [] →
    (s.impliedCurve construction d).curve = .ok ⟨pointsSampledOn tenors series d⟩
  failing : ∀ d ∈ fetched.days, pointsSampledOn tenors series d = [] →
    ∃ e, (s.impliedCurve construction d).curve = .error e
  undisturbed : ∀ d ∈ fetched.days, (s.impliedCurve construction d).cancels = false

namespace SameSamples

variable {s : Sources α} {curve : CurveName} {construction : ConstructionName} {on : Date}
  {fetched : DateWindow}

theorem pointsOn_eq (same : s.SameSamples curve construction on fetched tenors series)
    (inside : d ∈ fetched.days) : s.pointsOn construction d = pointsSampledOn tenors series d := by
  unfold pointsOn
  by_cases none : pointsSampledOn tenors series d = []
  · obtain ⟨e, failed⟩ := same.failing d inside none
    rw [failed, none]
  · rw [same.built d inside none]

theorem ascends (same : s.SameSamples curve construction on fetched tenors series)
    (inside : d ∈ fetched.days) : s.Ascends construction d := by
  intro curve built
  have points : s.pointsOn construction d = curve.points := by
    unfold pointsOn
    rw [built]
  rw [ImpliedCurve.tenors, ← points, same.pointsOn_eq inside]
  exact ascending_pointsSampledOn same.ascending

theorem mem_harvest_iff (same : s.SameSamples curve construction on fetched tenors series)
    {t : Tenor} {a : Sample α} :
    a ∈ s.harvest construction fetched.days t ↔
      t ∈ tenors ∧ a ∈ ((series t).between fetched.first fetched.last).samples := by
  obtain ⟨d, v⟩ := a
  rw [mem_harvest, DateSeries.mem_samples_between, ← DateWindow.mem_days]
  constructor
  · rintro ⟨inside, point⟩
    rw [same.pointsOn_eq inside, mem_pointsSampledOn] at point
    exact ⟨point.1, point.2, inside⟩
  · rintro ⟨listed, sampled, inside⟩
    rw [same.pointsOn_eq inside, mem_pointsSampledOn]
    exact ⟨inside, listed, sampled⟩

theorem reported_iff (same : s.SameSamples curve construction on fetched tenors series)
    {t : Tenor} : s.Reported construction fetched.days t ↔ t ∈ tenors := by
  rw [← harvest_ne_nil_iff]
  constructor
  · intro nonempty
    obtain ⟨a, member⟩ := List.exists_mem_of_ne_nil _ nonempty
    exact (same.mem_harvest_iff.mp member).1
  · intro listed
    obtain ⟨d, dated, inside⟩ := same.sampled t listed
    obtain ⟨a, sampled, rfl⟩ := List.mem_map.mp dated
    exact List.ne_nil_of_mem
      (same.mem_harvest_iff.mpr ⟨listed, DateSeries.mem_samples_between.mpr ⟨sampled, inside⟩⟩)

/-- A replay finds every series again, cut to the fetched window. -/
theorem sortedSeries_eq (same : s.SameSamples curve construction on fetched tenors series)
    {before after : Journal α} {history : ImpliedHistory α}
    (replayed : s.Replayed { construction } before fetched.days history after) :
    history.buckets.sortedSeries =
      tenors.map fun t => (t, (series t).between fetched.first fetched.last) := by
  have keys : history.buckets.sortedSeries.map (·.1) = tenors :=
    replayed.ascending_tenors.eq_of_mem_iff same.ascending fun t => by
      rw [replayed.mem_tenors, same.reported_iff]
  have cut (q : Tenor × DateSeries α) (member : q ∈ history.buckets.sortedSeries) :
      (q.1, (series q.1).between fetched.first fetched.last) = q := by
    have bucket := (BucketCollection.mem_sortedSeries replayed.sound).mp member
    obtain ⟨reported, harvested⟩ := replayed.get?_eq_some_iff.mp bucket
    refine Prod.ext rfl (DateSeries.ext_mem fun a => ?_)
    rw [harvested, same.mem_harvest_iff, and_iff_right (same.reported_iff.mp reported)]
  rw [← keys, List.map_map]
  calc history.buckets.sortedSeries = history.buckets.sortedSeries.map id := (List.map_id _).symm
    _ = _ := List.map_congr_left fun q member => (cut q member).symm

theorem exists_replay (same : s.SameSamples curve construction on fetched tenors series)
    {window : DateWindow} (lead : window.fetched? = some fetched) (bounded : window.last < Date.last)
    {j : Journal α} (live : j.cancelled = false) :
    ∃ history, (s.replay { construction } window).outcome j = .ok history ∧
      history.buckets.sortedSeries =
        tenors.map fun t => (t, (series t).between fetched.first fetched.last) := by
  have last := (DateWindow.fetched?_eq_some.mp lead).2
  obtain ⟨history, ran⟩ := Completes.exists_replay { construction } lead
    ⟨last ▸ bounded, live, fun d inside _ => same.undisturbed d inside, fun d => same.ascends⟩
  exact ⟨history, ran, same.sortedSeries_eq (replayed_of_replay lead ran)⟩

end SameSamples

variable [Quantity α] {s : Sources α} {request : AttributionRequest} {curve : CurveName}
  {construction : ConstructionName} {on : Date} {fetched : DateWindow}

/-- The inputs of both curves fail together, as no conversion is asked for and the specification
is there. -/
theorem agree_inputs (lead : request.window.fetched? = some fetched)
    (unasked : request.outputCurrency = none) {specification : CurveSpecification}
    (specified : s.specification curve on = .ok specification) :
    Work.Agree (fun q i => q.1 = i.1 ∧ s.sensitivities request.position on = .ok q.1 ∧
        q.2 = specification ∧ i.2 = .identity)
      (s.quotedInputs request curve on) (s.impliedInputs request on) := by
  have identity : (s.pnlConversion request.curveCurrency request.outputCurrency request.mode
      fetched on).Ends (fun _ => False) (· = .identity) := by
    rw [unasked]
    exact .pure rfl
  refine .bind (.ask _ _) fun pair _ paired => .bind (.ask _ _) fun bundle _ bundled =>
    .bind_left (.ask _ _) fun answer told => .bind_right (.inRange lead) fun _ inRange => ?_
  subst inRange
  refine .bind_right identity.attempt fun conversion unconverted => ?_
  obtain ⟨rfl, rfl⟩ := paired
  obtain ⟨rfl, rfl⟩ := bundled
  rw [specified] at told
  subst told
  cases conversion with
  | error e => exact unconverted.elim
  | ok conversion =>
      cases unconverted
      cases s.pair request.position.pair with
      | error e => exact .fail _
      | ok pair =>
          cases bundled : s.sensitivities request.position on with
          | error e => exact .fail _
          | ok bundle => exact .pure ⟨rfl, rfl, rfl, rfl⟩

theorem agree_convertedReturns (history : DateSeries α) (conversion : Option (DateSeries α)) :
    Work.Agree (fun moves moves' => moves = moves' ∧
        ∃ levels, ConvertedLevels history conversion levels ∧ s.returns levels = .ok moves)
      (s.convertedReturns history conversion) (s.convertedReturns history conversion) := by
  have taken {levels : DateSeries α} (converted : ConvertedLevels history conversion levels) :
      Work.Agree (fun moves moves' => moves = moves' ∧
          ∃ levels, ConvertedLevels history conversion levels ∧ s.returns levels = .ok moves)
        (do Work.require .returnSeries "" (← s.askReturns levels))
        (do Work.require .returnSeries "" (← s.askReturns levels)) := by
    refine .bind (.ask _ _) fun answer _ told => ?_
    obtain ⟨rfl, rfl⟩ := told
    exact (Work.Agree.require _ _ _).mono fun moves _ ⟨ok, same⟩ => ⟨same, levels, converted, ok⟩
  cases conversion with
  | none => exact taken .native
  | some rates =>
      refine .bind (.ofValues _) fun levels _ ⟨product, same⟩ => ?_
      subst same
      exact taken (.converted (DateSeries.multiplyAligned_eq_ok.mp product))

theorem agree_column {node : CurveNode} {rates : DateSeries α} (unnamed : node.name = none)
    (returned : s.nodeHistory node fetched = .ok rates) (sensitivity : α) :
    Work.Agree Eq (s.quotedColumn request curve fetched none node sensitivity)
      (s.impliedColumn request curve .identity node.maturity rates sensitivity) := by
  refine .bind_left (.ask _ _) fun answer told => ?_
  rw [told, returned]
  refine .bind_left (.pure rfl) fun history taken => ?_
  subst taken
  refine .bind (agree_convertedReturns _ none) fun moves _ ⟨same, _⟩ =>
    .bind_left (.note _) fun _ _ => .bind_right (.pure rfl) fun pnl converted =>
    .bind_right (.note _) fun _ _ => ?_
  subst same converted
  refine .pure ?_
  rw [CurveNode.label, unnamed]
  rfl

theorem agree_columns {nodes : List CurveNode}
    (returned : ∀ node ∈ nodes, node.name = none ∧
      s.nodeHistory node fetched = .ok ((series node.maturity).between fetched.first fetched.last))
    (vector : List α) :
    Work.Agree Eq
      ((nodes.zip vector).mapM fun (node, sensitivity) =>
        s.quotedColumn request curve fetched none node sensitivity)
      ((((nodes.map (·.maturity)).map fun t =>
          (t, (series t).between fetched.first fetched.last)).zip vector).mapM
        fun ((tenor, rates), sensitivity) =>
          s.impliedColumn request curve .identity tenor rates sensitivity) := by
  have items : List.Forall₂
      (fun q q' => q.1 ∈ nodes ∧
        q' = ((q.1.maturity, (series q.1.maturity).between fetched.first fetched.last), q.2))
      (nodes.zip vector)
      (((nodes.map (·.maturity)).map fun t =>
        (t, (series t).between fetched.first fetched.last)).zip vector) := by
    rw [List.map_map, List.zip_map_left, List.forall₂_map_right_iff, List.forall₂_same]
    intro q member
    exact ⟨(List.of_mem_zip member).1, rfl⟩
  have piece (q : CurveNode × α) (q' : (Tenor × DateSeries α) × α)
      (item : q.1 ∈ nodes ∧
        q' = ((q.1.maturity, (series q.1.maturity).between fetched.first fetched.last), q.2)) :
      Work.Agree Eq (s.quotedColumn request curve fetched none q.1 q.2)
        (s.impliedColumn request curve .identity q'.1.1 q'.1.2 q'.2) := by
    obtain ⟨member, rfl⟩ := item
    exact agree_column (returned q.1 member).1 (returned q.1 member).2 q.2
  have columns := Work.Agree.mapM items piece
  rw [List.forall₂_eq_eq_eq] at columns
  exact columns

theorem SameSamples.attributions (same : s.SameSamples curve construction on fetched tenors series)
    (lead : request.window.fetched? = some fetched) (bounded : request.window.last < Date.last)
    (unasked : request.outputCurrency = none)
    (native : ∀ bundle entry, s.sensitivities request.position on = .ok bundle →
      (bundle.forCurve curve).head? = some entry → entry.currency = request.curveCurrency)
    (j : Journal α) {j' : Journal α} (live : j'.cancelled = false) :
    (∃ a, (s.attributeQuoted request curve on).outcome j = .ok a ∧
        (s.attributeImplied request curve construction on).outcome j' = .ok a) ∨
      ∃ e, (s.attributeQuoted request curve on).outcome j = .error (.failed e) ∧
        (s.attributeImplied request curve construction on).outcome j' = .error (.failed e) := by
  obtain ⟨specification, specified, listed, returned⟩ := same.specified
  rw [attributeQuoted_eq, attributeImplied_eq_columns]
  rcases agree_inputs lead unasked specified j j' with
    ⟨⟨bundle, _⟩, ⟨_, _⟩, ok, ok', rfl, bundled, rfl, rfl⟩ | ⟨e, failed, failed'⟩
  · -- Only the implied run replays, which leaves it where the quoted run is.
    have calm : ((s.impliedInputs request on).journal j').cancelled = false :=
      (s.keepsFlag_impliedInputs request on j').trans live
    obtain ⟨history, ran, sorted⟩ := same.exists_replay lead bounded calm
    rw [Work.outcome_bind_of_ok ok, Work.outcome_bind_of_ok ok', Work.outcome_bind_of_ok ran]
    refine Work.Agree.outcomes ?_ _ _
    refine .bind_right (.note _) fun _ _ => .bind (.matchCurve _ _) fun matched _ found => ?_
    obtain ⟨rfl, found⟩ := found
    obtain ⟨entry, first, rfl⟩ := SensitivityBundle.matched?_eq_some_iff.mp found
    dsimp only
    rw [sorted, ← listed, List.length_map, List.length_map]
    have unconverted : (s.quotedConversion entry.currency request.outputCurrency fetched).Ends
        (fun _ => False) (· = none) := by
      rw [unasked]
      exact .pure rfl
    refine .bind (.checkCount _ _ _) fun _ _ _ => .bind_left (.inRange lead) fun _ inRange => ?_
    subst inRange
    refine .bind_left unconverted fun conversion missing => ?_
    subst missing
    refine .bind (agree_columns (fun node member => ⟨(returned node member).1,
      (returned node member).2 _⟩) entry.vector) fun columns _ equal => .pure ?_
    rw [equal, unasked, Option.getD_none, Option.getD_none, native bundle entry bundled first]
  · exact .inr ⟨e, Work.outcome_bind_of_error failed, Work.outcome_bind_of_error failed'⟩

/-- If the same samples are given as the histories of a quoted curve and as the curves of a
construction, then runs on both curves that ask for no output currency end alike: with equal
attributions, or with the same error. -/
theorem run_quoted_eq_run_implied (context : ValuationContext) (tokens : Tokens)
    (lead : request.window.fetched? = some fetched) (bounded : request.window.last < Date.last)
    (unasked : request.outputCurrency = none)
    (native : ∀ bundle entry, s.sensitivities request.position context.date = .ok bundle →
      (bundle.forCurve curve).head? = some entry → entry.currency = request.curveCurrency)
    (live : tokens.isCancelled context.token = false)
    (same : s.SameSamples curve construction context.date fetched tenors series) :
    (∃ a, (s.run { request with curve := .quoted curve } context tokens).1 = .ok a ∧
        (s.run { request with curve := .implied curve construction } context tokens).1 = .ok a) ∨
      ∃ e, (s.run { request with curve := .quoted curve } context tokens).1 = .error (.failed e) ∧
        (s.run { request with curve := .implied curve construction } context tokens).1 =
          .error (.failed e) := by
  rw [run_fst_eq, run_fst_eq]
  exact same.attributions lead bounded unasked native _ live

/-- The rates of the sparse curve as one series per tenor. -/
def sparseRates (t : Tenor) : DateSeries Float :=
  if t = ⟨.months, 3⟩ then ⟨[(.friday, 1.0)], by decide⟩
  else ⟨[(.friday, 2.0), (.monday, 2.5)], by decide⟩

/-- The sparse curve, whose rates are also the histories of two nodes. -/
def sparseNodes : Sources Float :=
  { sparseDeposits with
    specification := fun curve _ =>
      .ok ⟨curve, [⟨"EUR3M", ⟨.months, 3⟩, none⟩, ⟨"EUR1Y", ⟨.years, 1⟩, none⟩]⟩
    nodeHistory := fun node window =>
      .ok ((sparseRates node.maturity).between window.first window.last) }

theorem pointsSampledOn_sparseRates (d : Date) :
    pointsSampledOn [⟨.months, 3⟩, ⟨.years, 1⟩] sparseRates d =
      if d = .friday then [(⟨.months, 3⟩, 1.0), (⟨.years, 1⟩, 2.0)]
      else if d = .monday then [(⟨.years, 1⟩, 2.5)] else [] := by
  by_cases friday : d = .friday
  · subst friday
    rfl
  · by_cases monday : d = .monday
    · subst monday
      rfl
    · have unsampled (t : Tenor) : (sparseRates t).valueOn? d = none := by
        unfold sparseRates
        split <;> simp [DateSeries.valueOn?, List.lookup_cons, beq_false_of_ne friday,
          beq_false_of_ne monday]
      simp [pointsSampledOn, unsampled, friday, monday]

theorem sameSamples_sparseNodes (curve : CurveName) (on : Date) :
    sparseNodes.SameSamples curve "OIS" on weekToMonday [⟨.months, 3⟩, ⟨.years, 1⟩]
      sparseRates where
  ascending := by decide
  sampled := by
    intro t listed
    refine ⟨.friday, ?_, by decide⟩
    unfold sparseRates
    split <;> decide
  specified := by
    refine ⟨_, rfl, rfl, fun node member => ⟨?_, fun window => rfl⟩⟩
    rcases List.mem_pair.mp member with rfl | rfl <;> rfl
  built := by
    intro d _ nonempty
    rw [pointsSampledOn_sparseRates] at nonempty ⊢
    simp only [sparseNodes, sparseDeposits, sparseCurve]
    split at nonempty
    next friday => rw [if_pos friday, if_pos friday]
    next other =>
      split at nonempty
      next monday => rw [if_neg other, if_neg other, if_pos monday, if_pos monday]
      · exact absurd rfl nonempty
  failing := by
    intro d _ none
    rw [pointsSampledOn_sparseRates] at none
    simp only [sparseNodes, sparseDeposits, sparseCurve]
    split at none
    · cases none
    next not_friday =>
      split at none
      · cases none
      next not_monday => exact ⟨_, by rw [if_neg not_friday, if_neg not_monday]⟩
  undisturbed := fun d _ => cancels_sparseCurve "OIS" d

def unconvertedMonday : AttributionRequest := { impliedMonday with outputCurrency := none }

theorem run_sparseNodes :
    unconvertedMonday.window.fetched? = some weekToMonday ∧
      unconvertedMonday.window.last < Date.last ∧
      ∃ a, (sparseNodes.run { unconvertedMonday with curve := .quoted "EUR-OIS" } ⟨.monday, ⟨0⟩⟩
            .none).1 = .ok a ∧
        (sparseNodes.run { unconvertedMonday with curve := .implied "EUR-OIS" "OIS" }
            ⟨.monday, ⟨0⟩⟩ .none).1 = .ok a := by
  have lead : unconvertedMonday.window.fetched? = some weekToMonday := by decide
  have bounded : unconvertedMonday.window.last < Date.last := by decide
  have native : ∀ bundle entry,
      sparseNodes.sensitivities unconvertedMonday.position .monday = .ok bundle →
      (bundle.forCurve "EUR-OIS").head? = some entry →
      entry.currency = unconvertedMonday.curveCurrency := by
    rintro _ _ ⟨⟩ ⟨⟩
    rfl
  have succeeds : ∃ a, (sparseNodes.run { unconvertedMonday with curve := .quoted "EUR-OIS" }
      ⟨.monday, ⟨0⟩⟩ .none).1 = .ok a := ⟨_, rfl⟩
  refine ⟨lead, bounded, ?_⟩
  rcases run_quoted_eq_run_implied ⟨.monday, ⟨0⟩⟩ .none lead bounded rfl native rfl
    (sameSamples_sparseNodes _ _) with both | ⟨e, failed, -⟩
  · exact both
  · obtain ⟨a, ok⟩ := succeeds
    rw [ok] at failed
    cases failed

end Sources

end CurvePnl
