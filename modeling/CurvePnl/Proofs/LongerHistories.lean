import CurvePnl.Proofs.NestedCuts
import CurvePnl.Proofs.RunErrors
import CurvePnl.Proofs.SameSamples
import CurvePnl.Proofs.Trimming

/-! # Histories that begin earlier

What is fetched over a longer window is what is fetched over a shorter one, with more in front. Of
the history of a node a trim drops what is in front if there is a base sample behind it. Exchange
rates are looked up on the dates that are left, but where they are inverted all of them are, so a
zero among the earlier ones fails the run. Without one, a run on a quoted curve does the same with
both.
-/

namespace CurvePnl

variable {α : Type} {longer fetched : DateWindow}

/-- What is answered about windows is cut out of one history. -/
def CutsOut (answer : DateWindow → Except SourceError (DateSeries α)) : Prop :=
  ∃ full : Except SourceError (DateSeries α),
    ∀ w, answer w = full.map fun x => x.between w.first w.last

namespace CutsOut

variable {answer : DateWindow → Except SourceError (DateSeries α)}

theorem eq_map (cuts : CutsOut answer) (lengthens : longer.Lengthens fetched) :
    answer fetched = (answer longer).map fun x => x.between fetched.first fetched.last := by
  obtain ⟨full, cut⟩ := cuts
  rw [cut, cut]
  cases full with
  | error e => rfl
  | ok x =>
      refine congrArg Except.ok (DateSeries.ext_mem fun a => ?_)
      simp only [DateSeries.mem_samples_between, lengthens.ends]
      constructor
      · rintro ⟨member, lower, upper⟩
        exact ⟨⟨member, Int.le_trans lengthens.begins lower, upper⟩, lower, upper⟩
      · rintro ⟨⟨member, -⟩, inside⟩
        exact ⟨member, inside⟩

theorem between_eq_self (cuts : CutsOut answer) {w : DateWindow} {x : DateSeries α}
    (answered : answer w = .ok x) : x.between w.first w.last = x := by
  have same := cuts.eq_map (⟨Int.le_refl _, rfl⟩ : w.Lengthens w)
  rw [answered] at same
  exact (Except.ok.inj same).symm

theorem le_last (cuts : CutsOut answer) {w : DateWindow} {x : DateSeries α}
    (answered : answer w = .ok x) : ∀ a ∈ x.samples, a.1 ≤ w.last := by
  intro a member
  rw [← cuts.between_eq_self answered] at member
  exact (DateSeries.mem_samples_between.mp member).2.2

end CutsOut

namespace DateSeries

theorem between_mapValues {β : Type} (x : DateSeries α) (f : α → β) (first last : Date) :
    (x.mapValues f).between first last = (x.between first last).mapValues f := by
  apply ext_samples
  simp only [samples_between, mapValues, List.filter_map, Function.comp_def]

variable [Quantity α]

/-- No sample from before the date is zero. -/
def NonzeroBefore (x : DateSeries α) (d : Date) : Prop :=
  ∀ a ∈ x.samples, a.1 < d → Quantity.isZero a.2 = false

theorem reciprocal_between {x : DateSeries α} {first last : Date} (nonzero : x.NonzeroBefore first)
    (ends : ∀ a ∈ x.samples, a.1 ≤ last) :
    (x.between first last).reciprocal =
      x.reciprocal.map fun y => y.between first last := by
  have found : (x.between first last).samples.find? (fun a => Quantity.isZero a.2) =
      x.samples.find? fun a => Quantity.isZero a.2 := by
    rw [samples_between, ← List.head?_filter, ← List.head?_filter, List.filter_filter]
    refine congrArg List.head? (List.filter_congr fun a member => ?_)
    by_cases early : a.1 < first
    · simp [nonzero a member early]
    · have late : first ≤ a.1 := Int.not_lt.mp early
      simp [ends a member, late]
  rw [reciprocal, reciprocal, found]
  split
  · rfl
  · exact congrArg Except.ok (between_mapValues x _ first last).symm

/-- Of the second factor, what lies outside of the dates of the first does not matter. -/
theorem products_between {x other : DateSeries α} {w : DateWindow} (context : String)
    (inside : ∀ d ∈ x.dates, w.first ≤ d ∧ d ≤ w.last) :
    x.multiplyAligned (other.between w.first w.last) context = x.multiplyAligned other context ∧
      x.multiplyCommon (other.between w.first w.last) = x.multiplyCommon other := by
  refine products_congr context fun d sampled => ?_
  rw [valueOn?_between, if_pos (inside d sampled)]

end DateSeries

/-- A conversion over a longer window, and the same one over a shorter. -/
inductive Conversion.CutTo [Quantity α] (w : DateWindow) : Conversion α → Conversion α → Prop where
  | identity : CutTo w .identity .identity
  | snapshot {rate} : CutTo w (.snapshot rate) (.snapshot rate)
  | historicalSpot {rates : DateSeries α} (nonzero : rates.NonzeroBefore w.first)
      (ends : ∀ a ∈ rates.samples, a.1 ≤ w.last) :
      CutTo w (.historicalSpot rates) (.historicalSpot (rates.between w.first w.last))

theorem Conversion.CutTo.agree_apply [Quantity α] {c c' : Conversion α} (cut : c.CutTo fetched c')
    {pnl : DateSeries α} (inside : ∀ rates, c = .historicalSpot rates →
      ∀ d ∈ pnl.dates, fetched.first ≤ d ∧ d ≤ fetched.last) :
    Work.Agree Eq (c.apply pnl) (c'.apply pnl) := by
  cases cut with
  | identity | snapshot => exact .pure rfl
  | @historicalSpot rates nonzero ends =>
      have inside := inside rates rfl
      refine .bind_left (.notes _ _) fun _ _ => .bind_right (.notes _ _) fun _ _ => ?_
      rw [DateSeries.reciprocal_between nonzero ends]
      refine .bind (.ofValues_map _ _) fun factors _ ⟨_, cut⟩ => .pure ?_
      rw [← cut, (DateSeries.products_between "" inside).2]

namespace Sources

variable {s : Sources α}

/-- The histories of nodes and of exchange rates are each cut out of one. -/
structure CutsHistories (s : Sources α) : Prop where
  nodes : ∀ node, CutsOut (s.nodeHistory node)
  rates : ∀ pair, CutsOut (s.fxHistory pair)

variable [Quantity α] {native output : Currency} {request : AttributionRequest} {on : Date}

/-- Rates that are quoted against the conversion are inverted; none of them from before the shorter
window is zero. -/
def InvertsEarlier (s : Sources α) (native output : Currency) (longer fetched : DateWindow) :
    Prop :=
  ∀ pair history, s.pair (.of native output) = .ok pair → pair.base ≠ native →
    s.fxHistory pair longer = .ok history → history.NonzeroBefore fetched.first

theorem agree_conversionSeries (cuts : s.CutsHistories) (lengthens : longer.Lengthens fetched) (inverts : s.InvertsEarlier native output longer fetched) :
    Work.Agree (fun x x' => x.between fetched.first fetched.last = x' ∧
        s.ConversionRates native output longer x)
      (s.conversionSeries native output longer) (s.conversionSeries native output fetched) := by
  refine .strengthen ?_ fun j x => (s.outcome_conversionSeries_eq_ok).mp
  refine .bind (.ask _ _) fun answer _ told => ?_
  obtain ⟨rfl, rfl⟩ := told
  refine .bind (.require _ _ _) fun pair _ ⟨paired, same⟩ => ?_
  subst same
  refine .bind_left (.ask _ _) fun answer told => .bind_right (.ask _ _) fun answer' told' => ?_
  rw [told', (cuts.rates pair).eq_map lengthens, told]
  refine .bind (.require_map _ _ _ _) fun history _ ⟨returned, same⟩ => ?_
  subst same
  refine .bind_left (.note _) fun _ _ => .bind_right (.note _) fun _ _ => ?_
  split
  · exact .pure rfl
  next against =>
    rw [DateSeries.reciprocal_between (inverts pair history paired against returned)
      (lengthens.ends ▸ (cuts.rates pair).le_last returned)]
    exact (Work.Agree.ofValues_map _ _).mono fun _ _ cut => cut.2

theorem ConversionRates.le_last (cuts : s.CutsHistories) {w : DateWindow} {rates : DateSeries α}
    (found : s.ConversionRates native output w rates) : ∀ a ∈ rates.samples, a.1 ≤ w.last := by
  obtain ⟨pair, history, -, returned, oriented⟩ := found
  have early := (cuts.rates pair).le_last returned
  split at oriented
  · rwa [oriented]
  · unfold DateSeries.reciprocal at oriented
    split at oriented
    · cases oriented
    · cases oriented
      exact List.forall_mem_map.mpr early

theorem agree_quotedConversion (cuts : s.CutsHistories) (lengthens : longer.Lengthens fetched) {asked : Option Currency}
    (inverts : ∀ output, asked = some output → output ≠ native →
      s.InvertsEarlier native output longer fetched) :
    Work.Agree (fun c c' => c.map (fun x => x.between fetched.first fetched.last) = c')
      (s.quotedConversion native asked longer) (s.quotedConversion native asked fetched) := by
  unfold quotedConversion
  split
  · exact .pure rfl
  next output needed =>
    obtain ⟨asked, different⟩ := conversionNeeded_eq_some.mp needed
    rw [← bind_pure_comp, ← bind_pure_comp]
    exact .bind (agree_conversionSeries cuts lengthens (inverts output asked different))
      fun _ _ ⟨cut, _⟩ => .pure (congrArg some cut)

theorem convertedReturns_between {history : DateSeries α}
    (inside : ∀ d ∈ history.dates, fetched.first ≤ d ∧ d ≤ fetched.last)
    (conversion : Option (DateSeries α)) :
    s.convertedReturns history (conversion.map fun x => x.between fetched.first fetched.last) =
      s.convertedReturns history conversion := by
  cases conversion with
  | none => rfl
  | some other =>
      simp only [Option.map_some, convertedReturns,
        (DateSeries.products_between "conversion series" inside).1]

theorem agree_quotedColumn (cuts : s.CutsHistories) (lengthens : longer.Lengthens fetched) (bounded : request.window.first ≤ fetched.last)
    {curve : CurveName} {conversion : Option (DateSeries α)} {node : CurveNode} {sensitivity : α}
    (sampled : ∀ history, s.nodeHistory node fetched = .ok history →
      ∃ a ∈ history.samples, a.1 < request.window.first) :
    Work.Agree Eq (s.quotedColumn request curve longer conversion node sensitivity)
      (s.quotedColumn request curve fetched
        (conversion.map fun x => x.between fetched.first fetched.last) node sensitivity) := by
  refine .bind_left (.ask _ _) fun answer told => .bind_right (.ask _ _) fun answer' told' => ?_
  have cut := (cuts.nodes node).eq_map lengthens
  rw [told', cut, told]
  refine .bind (.require_map _ _ _ _) fun history _ ⟨returned, same⟩ => ?_
  subst same
  rw [returned] at cut
  obtain ⟨a, member, before⟩ := sampled _ cut
  obtain ⟨member, after, -⟩ := DateSeries.mem_samples_between.mp member
  have trimmed : history.trimTo request.window.first =
      (history.between fetched.first fetched.last).trimTo request.window.first := by
    rw [← DateSeries.trimTo_between bounded lengthens.begins ⟨a, member, after, before⟩,
      ← lengthens.ends,
      (cuts.nodes node).between_eq_self returned]
  rw [trimmed, convertedReturns_between]
  · refine .bind (agree_convertedReturns _ _) fun moves _ ⟨same, _⟩ => .bind_left (.note _)
      fun _ _ => .bind_right (.note _) fun _ _ => .pure ?_
    rw [same]
  · intro d member
    obtain ⟨a, left, rfl⟩ := List.mem_map.mp member
    exact (DateSeries.mem_samples_between.mp (DateSeries.mem_trimTo.mp left).1).2

theorem agree_quotedColumns (cuts : s.CutsHistories) (lengthens : longer.Lengthens fetched) (bounded : request.window.first ≤ fetched.last)
    {curve : CurveName} {conversion : Option (DateSeries α)} {nodes : List CurveNode}
    (sampled : ∀ node ∈ nodes, ∀ history, s.nodeHistory node fetched = .ok history →
      ∃ a ∈ history.samples, a.1 < request.window.first) (vector : List α) :
    Work.Agree Eq
      ((nodes.zip vector).mapM fun (node, sensitivity) =>
        s.quotedColumn request curve longer conversion node sensitivity)
      ((nodes.zip vector).mapM fun (node, sensitivity) =>
        s.quotedColumn request curve fetched
          (conversion.map fun x => x.between fetched.first fetched.last) node sensitivity) := by
  have items : List.Forall₂ (fun q q' => q = q' ∧ q.1 ∈ nodes) (nodes.zip vector)
      (nodes.zip vector) :=
    List.forall₂_same.mpr fun q member => ⟨rfl, (List.of_mem_zip member).1⟩
  have piece (q q' : CurveNode × α) (item : q = q' ∧ q.1 ∈ nodes) :
      Work.Agree Eq (s.quotedColumn request curve longer conversion q.1 q.2)
        (s.quotedColumn request curve fetched
          (conversion.map fun x => x.between fetched.first fetched.last) q'.1 q'.2) := by
    obtain ⟨rfl, member⟩ := item
    exact agree_quotedColumn cuts lengthens bounded (sampled q.1 member)
  have columns := Work.Agree.mapM items piece
  rw [List.forall₂_eq_eq_eq] at columns
  exact columns

theorem agree_quotedInputs (s : Sources α) (request : AttributionRequest) (curve : CurveName)
    (on : Date) :
    Work.Agree (fun i i' => i = i' ∧ s.sensitivities request.position on = .ok i.1 ∧
        s.specification curve on = .ok i.2)
      (s.quotedInputs request curve on) (s.quotedInputs request curve on) :=
  (Work.Agree.of_blind (s.blind_quotedInputs request curve on)
    (ends_quotedInputs curve).not_aborted).strengthen fun _ _ ok =>
      (s.outcome_quotedInputs_eq_ok.mp ok).2

theorem agree_attributeQuoted {curve : CurveName} {weeks : Nat} (cuts : s.CutsHistories)
    (lengthens : longer.Lengthens fetched)
    (leads : request.window.fetched? weeks = some longer)
    (lead : request.window.fetched? = some fetched)
    (sampled : ∀ specification, s.specification curve on = .ok specification →
      ∀ node ∈ specification.nodes, ∀ history, s.nodeHistory node fetched = .ok history →
        ∃ a ∈ history.samples, a.1 < request.window.first)
    (inverts : ∀ bundle matched output, s.sensitivities request.position on = .ok bundle →
      bundle.matched? curve = some matched → request.outputCurrency = some output →
      output ≠ matched.currency → s.InvertsEarlier matched.currency output longer fetched) :
    Work.Agree Eq (s.attributeQuoted request curve on weeks)
      (s.attributeQuoted request curve on) := by
  have bounded : request.window.first ≤ fetched.last := by
    rw [(DateWindow.fetched?_eq_some.mp lead).2]
    exact request.window.first_le_last
  rw [s.attributeQuoted_eq request curve on weeks, s.attributeQuoted_eq request curve on]
  refine .bind (s.agree_quotedInputs request curve on) fun inputs _ ⟨same, bundled, specified⟩ => ?_
  subst same
  refine .bind (.matchCurve _ _) fun matched _ ⟨same, found⟩ => ?_
  subst same
  refine .bind (.checkCount _ _ _) fun _ _ _ => .bind_left (.inRange leads) fun _ here =>
    .bind_right (.inRange lead) fun _ here' => ?_
  subst here here'
  refine .bind (agree_quotedConversion cuts lengthens fun output =>
    inverts inputs.1 matched output bundled found) fun conversion _ cut => ?_
  subst cut
  refine .bind (agree_quotedColumns cuts lengthens bounded (sampled _ specified) matched.vector)
    fun columns _ same => .pure ?_
  rw [same]

end Sources

end CurvePnl
