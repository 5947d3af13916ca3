import CurvePnl.Proofs.Reload
import CurvePnl.Proofs.Replay
import CurvePnl.Proofs.SortedSamples
import CurvePnl.Store.DataSet
import Mathlib.Data.List.Dedup

/-! # Histories of implied curves from rows

Rows of par rates are grouped by date when they are loaded, and a replay that goes through the dates
groups them by tenor. What comes out is the table of the rows turned over: a series for each tenor,
in which each row of the tenor stands once. How the rows of different dates are mixed in the file
does not matter. The rows of one date have to ascend, or the date ends the replay.
-/

namespace CurvePnl

variable {α : Type}

/-- Listing the elements of each key in turn lists the elements of all the keys. -/
theorem perm_flatMap_filter {β κ : Type} [DecidableEq κ] (key : β → κ) (l : List β) {keys : List κ}
    (distinct : keys.Nodup) :
    (keys.flatMap fun k => l.filter (key · = k)).Perm (l.filter (key · ∈ keys)) := by
  induction keys with
  | nil => simp
  | cons k keys ih =>
      obtain ⟨fresh, distinct⟩ := List.nodup_cons.mp distinct
      have parts := List.filter_append_perm (fun a => decide (key a = k))
        (l.filter (key · ∈ k :: keys))
      have first : (l.filter (key · ∈ k :: keys)).filter (key · = k) = l.filter (key · = k) := by
        rw [List.filter_filter]
        refine List.filter_congr fun a _ => ?_
        simp +contextual
      have others : (l.filter (key · ∈ k :: keys)).filter (fun a => !decide (key a = k)) =
          l.filter (key · ∈ keys) := by
        rw [List.filter_filter]
        refine List.filter_congr fun a _ => ?_
        by_cases here : key a = k
        · simp [here, fresh]
        · simp [here]
      rw [first, others] at parts
      exact ((ih distinct).append_left _).trans parts

namespace ParRateRow

variable {rows : List (ParRateRow α)} {d : Date} {tenor : Tenor}

def sample (row : ParRateRow α) : Sample α := (row.date, row.rate)

/-- The tenors that rows list for a date, in the order of the rows. -/
def tenorsOn (rows : List (ParRateRow α)) (d : Date) : List Tenor :=
  (rows.filter (·.date = d)).map (·.tenor)

/-- The rows that are dated within a window. -/
def within (rows : List (ParRateRow α)) (window : DateWindow) : List (ParRateRow α) :=
  rows.filter fun row => window.contains row.date

/-- The samples that rows within a window list for a tenor, in the order of the rows. -/
def samplesOf (rows : List (ParRateRow α)) (window : DateWindow) (tenor : Tenor) :
    List (Sample α) :=
  ((within rows window).filter (·.tenor = tenor)).map sample

/-- The table of the rows within a window, turned over: the tenors that occur, in ascending order,
and for each of them the samples of its rows in the order of their dates. -/
def transposed (rows : List (ParRateRow α)) (window : DateWindow) :
    List (Tenor × List (Sample α)) :=
  (((within rows window).map (·.tenor)).dedup.mergeSort fun t u => (compare t u).isLE).map
    fun t => (t, byDate (samplesOf rows window t))

theorem tenorsOn_eq_nil_iff : tenorsOn rows d = [] ↔ d ∉ rows.map (·.date) := by
  simp only [tenorsOn, List.map_eq_nil_iff, List.filter_eq_nil_iff, decide_eq_true_eq, List.mem_map,
    not_exists, not_and]

theorem samplesOf_ne_nil_iff {window : DateWindow} :
    samplesOf rows window tenor ≠ [] ↔ tenor ∈ (within rows window).map (·.tenor) := by
  simp only [samplesOf, ne_eq, List.map_eq_nil_iff, List.filter_eq_nil_iff, decide_eq_true_eq,
    List.mem_map, not_forall, not_not, exists_prop]

theorem mem_tenors_transposed {window : DateWindow} :
    tenor ∈ (transposed rows window).map (·.1) ↔ samplesOf rows window tenor ≠ [] := by
  rw [samplesOf_ne_nil_iff]
  simp only [transposed, List.map_map, Function.comp_def, List.map_id', List.mem_mergeSort,
    List.mem_dedup]

theorem ascending_transposed (rows : List (ParRateRow α)) (window : DateWindow) :
    Ascending ((transposed rows window).map (·.1)) := by
  have distinct := ((within rows window).map (·.tenor)).nodup_dedup
  simp only [transposed, List.map_map, Function.comp_def, List.map_id']
  refine BucketCollection.pairwise_mergeSort (distinct.imp fun different => ?_)
  exact beq_false_of_ne different

end ParRateRow

namespace ImpliedCurveStore

variable {rows rows' : List (ParRateRow α)} {d : Date}

theorem pointsOf_eq (rows : List (ParRateRow α)) (d : Date) :
    pointsOf rows d = (rows.filter (·.date = d)).map fun row => (row.tenor, row.rate) := by
  rw [← List.filterMap_eq_map, List.filterMap_filter]
  simp [pointsOf]

theorem map_fst_pointsOf (rows : List (ParRateRow α)) (d : Date) :
    (pointsOf rows d).map (·.1) = ParRateRow.tenorsOn rows d := by
  rw [pointsOf_eq, List.map_map]
  rfl

theorem samplesOn_pointsOf (rows : List (ParRateRow α)) (d : Date) (tenor : Tenor) :
    samplesOn d (pointsOf rows d) tenor =
      ((rows.filter (·.tenor = tenor)).filter (·.date = d)).map ParRateRow.sample := by
  have dated : ∀ row ∈ rows.filter (·.date = d), row.date = d :=
    fun row listed => of_decide_eq_true (List.mem_filter.mp listed).2
  rw [List.filter_comm, samplesOn, pointsOf_eq, List.filterMap_map, ← List.filterMap_eq_map]
  generalize rows.filter (·.date = d) = onDate at dated ⊢
  rw [List.filterMap_filter]
  refine List.filterMap_congr fun row listed => ?_
  simp only [Function.comp_apply, ParRateRow.sample, dated row listed, decide_eq_true_eq]

theorem alike_ofRows (same : ∀ d, rows'.filter (·.date = d) = rows.filter (·.date = d)) :
    (ofRows rows').Alike (ofRows rows) := by
  rw [(sound_ofRows rows').alike_iff (sound_ofRows rows)]
  intro d
  rw [points_ofRows, points_ofRows, pointsOf_eq, pointsOf_eq, same]

end ImpliedCurveStore

namespace Sources

variable {s : Sources α} {setup : ReplaySetup} {j : Journal α}

/-- If work on the first days ends with an error, then so does the replay, also if the days after
them cannot be looked for. -/
theorem replayFrom_of_error {last day : Date} {n : Nat} {history : ImpliedHistory α}
    {front : List Date} {h : Halt AttributionError} (inside : day ≤ last)
    (enough : (last.number + 1 - day.number).toNat ≤ n) (first : front <+: day.through last)
    (early : ∀ d ∈ front, d < Date.last)
    (failed : (front.foldlM (s.replayDay setup) history).outcome j = .error h) :
    (s.replayFrom setup last n history day).outcome j = .error h := by
  induction n generalizing day history j front with
  | zero =>
      rw [Date.le_def] at inside
      omega
  | succ n ih =>
      cases front with
      | nil => cases failed
      | cons d front =>
          have here : d = day := by
            have one := List.prefix_of_prefix_length_le (Date.singleton_prefix_through inside) first
              (by simp)
            exact (List.cons_prefix_cons.mp one).1.symm
          subst here
          obtain ⟨next, follows⟩ := Date.exists_succ? (early d List.mem_cons_self)
          have number := Date.succ?_eq_some.mp follows
          rw [replayFrom, follows, Work.inRange, pure_bind]
          rcases Work.outcome_bind_eq_error.mp failed with failed | ⟨later, ok, failed⟩
          · exact Work.outcome_bind_of_error failed
          · rw [Work.outcome_bind_of_ok ok]
            split
            next more =>
              rw [Date.through_of_succ? follows more, List.cons_prefix_cons] at first
              exact ih more (by omega) first.2
                (fun e member => early e (List.mem_cons_of_mem d member)) failed
            next done =>
              have same : d = last := Date.ext_number (by
                rw [Date.le_def] at inside done
                omega)
              rw [same, Date.through_self, List.cons_prefix_cons, List.prefix_nil] at first
              rw [first.2] at failed
              cases failed

/-- The same sources, but with the curves of a store. A store never cancels the work. -/
def withCurves (s : Sources α) (store : ImpliedCurveStore α) : Sources α :=
  { s with impliedCurve construction day := ⟨store.curve construction day, false⟩ }

section Rows

open ImpliedCurveStore ParRateRow

variable {rows : List (ParRateRow α)} {d : Date} {days : List Date} {tenor : Tenor}
  {window : DateWindow} {history : ImpliedHistory α} {after : Journal α}
  {construction : ConstructionName}

theorem curve_withCurves (rows : List (ParRateRow α)) (construction : ConstructionName) (d : Date) :
    ((s.withCurves (ofRows rows)).impliedCurve construction d).curve =
      answer construction d (pointsOf rows d) := by
  rw [← points_ofRows]
  exact (sound_ofRows rows).curve_eq construction d

theorem pointsOn_withCurves :
    (s.withCurves (ofRows rows)).pointsOn construction d = pointsOf rows d := by
  rw [pointsOn, curve_withCurves]
  cases pointsOf rows d <;> rfl

theorem tenors_withCurves {curve : ImpliedCurve α}
    (built : ((s.withCurves (ofRows rows)).impliedCurve construction d).curve = .ok curve) :
    curve.tenors = tenorsOn rows d := by
  rw [curve_withCurves] at built
  rw [← map_fst_pointsOf]
  cases points : pointsOf rows d with
  | nil =>
      rw [points] at built
      cases built
  | cons p rest =>
      rw [points] at built
      cases built
      rfl

theorem ascends_withCurves_iff :
    (s.withCurves (ofRows rows)).Ascends construction d ↔ Ascending (tenorsOn rows d) := by
  constructor
  · intro ascends
    cases points : pointsOf rows d with
    | nil =>
        rw [← map_fst_pointsOf, points]
        exact List.Pairwise.nil
    | cons p rest =>
        have built : ((s.withCurves (ofRows rows)).impliedCurve construction d).curve =
            .ok ⟨p :: rest⟩ := by
          rw [curve_withCurves, points]
          rfl
        rw [← tenors_withCurves built]
        exact ascends _ built
  · intro ascending curve built
    rwa [tenors_withCurves built]

theorem isBuilt_dayOutcome_withCurves :
    ((s.withCurves (ofRows rows)).dayOutcome setup d).isBuilt = decide (d ∈ rows.map (·.date)) := by
  have dated : pointsOf rows d = [] ↔ d ∉ rows.map (·.date) := by
    rw [← tenorsOn_eq_nil_iff, ← map_fst_pointsOf, List.map_eq_nil_iff]
  rw [dayOutcome, curve_withCurves]
  cases points : pointsOf rows d with
  | nil => exact (decide_eq_false (dated.mp points)).symm
  | cons p rest =>
      have member : d ∈ rows.map (·.date) := by
        by_contra undated
        rw [dated.mpr undated] at points
        cases points
      exact (decide_eq_true member).symm

theorem day_dayOutcome : (s.dayOutcome setup d).day = d := by
  unfold dayOutcome
  split <;> rfl

theorem perm_harvest_withCurves (rows : List (ParRateRow α)) (window : DateWindow) (tenor : Tenor) :
    (samplesOf rows window tenor).Perm
      ((s.withCurves (ofRows rows)).harvest construction window.days tenor) := by
  have distinct : window.days.Nodup := by
    refine window.pairwise_days.imp ?_
    rintro d _ before rfl
    exact Int.lt_irrefl _ before
  have inside : (within rows window).filter (·.tenor = tenor) =
      (rows.filter (·.tenor = tenor)).filter (·.date ∈ window.days) := by
    rw [within, List.filter_comm]
    simp only [DateWindow.contains, DateWindow.mem_days]
  simp only [samplesOf, harvest, pointsOn_withCurves, samplesOn_pointsOf, inside,
    ← List.map_flatMap]
  exact ((perm_flatMap_filter _ _ distinct).map _).symm

/-- After a replay of the days of a window, the buckets are the table of the rows turned over. -/
theorem Replayed.sortedSeries_eq_transposed
    (replayed : (s.withCurves (ofRows rows)).Replayed setup j window.days history after) :
    history.buckets.sortedSeries.map (fun b => (b.1, b.2.samples)) = transposed rows window := by
  have gathered (tenor : Tenor) : (samplesOf rows window tenor).Perm
      ((s.withCurves (ofRows rows)).harvest setup.construction window.days tenor) :=
    perm_harvest_withCurves rows window tenor
  have keys : history.buckets.sortedSeries.map (·.1) = (transposed rows window).map (·.1) := by
    apply replayed.ascending_tenors.eq_of_mem_iff (ascending_transposed rows window)
    intro tenor
    rw [replayed.mem_tenors, mem_tenors_transposed, ← harvest_ne_nil_iff, ← List.length_pos_iff,
      ← List.length_pos_iff, (gathered tenor).length_eq]
  have turned : transposed rows window = ((transposed rows window).map (·.1)).map
      fun t => (t, byDate (samplesOf rows window t)) := by
    simp only [transposed, List.map_map, Function.comp_def]
  rw [turned, ← keys, List.map_map]
  refine List.map_congr_left fun b member => ?_
  have found := (BucketCollection.mem_sortedSeries replayed.sound).mp member
  obtain ⟨-, samples⟩ := replayed.get?_eq_some_iff.mp found
  have listed := gathered b.1
  rw [← samples] at listed
  rw [Function.comp_apply, DateSeries.byDate_eq listed]

theorem Replayed.skippedDays_eq
    (replayed : (s.withCurves (ofRows rows)).Replayed setup j days history after) :
    history.skippedDays = days.filter fun d => d ∉ rows.map (·.date) := by
  rw [ImpliedHistory.skippedDays, replayed.outcomes, List.filter_map, List.map_map]
  simp only [Function.comp_def, isBuilt_dayOutcome_withCurves, day_dayOutcome, List.map_id',
    decide_not]

theorem exists_replay_withCurves (setup : ReplaySetup) {window fetched : DateWindow}
    (lead : window.fetched? = some fetched) (bounded : window.last < Date.last)
    (live : j.cancelled = false)
    (ascending : ∀ d ∈ fetched.days, Ascending (tenorsOn rows d)) :
    ∃ history, ((s.withCurves (ofRows rows)).replay setup window).outcome j = .ok history ∧
      history.buckets.sortedSeries.map (fun b => (b.1, b.2.samples)) = transposed rows fetched ∧
      history.skippedDays = fetched.days.filter fun d => d ∉ rows.map (·.date) := by
  have ascends : ∀ d ∈ fetched.days, (s.withCurves (ofRows rows)).Ascends setup.construction d :=
    fun d member => ascends_withCurves_iff.mpr (ascending d member)
  obtain ⟨history, after, -, replayed, ran⟩ :=
    exists_replayed live fetched.pairwise_days ascends fun _ _ => rfl
  have ran := ran []
  rw [List.append_nil] at ran
  refine ⟨history, ?_, replayed.sortedSeries_eq_transposed, replayed.skippedDays_eq⟩
  rw [replay_eq_foldlM lead bounded, Work.outcome, ran]
  rfl

/-- The first date whose rows do not ascend ends a replay, whether or not the dates that come after
it can be looked for. -/
theorem exists_disordered_withCurves (setup : ReplaySetup) {window fetched : DateWindow}
    (lead : window.fetched? = some fetched) (live : j.cancelled = false)
    (disorder : ∃ d ∈ fetched.days, ¬ Ascending (tenorsOn rows d)) :
    ∃ d ∈ fetched.days, ¬ Ascending (tenorsOn rows d) ∧
      (∀ e ∈ fetched.days, e < d → Ascending (tenorsOn rows e)) ∧
      (d < Date.last → ((s.withCurves (ofRows rows)).replay setup window).outcome j =
        .error (.failed (.nodeOrder d (tenorsOn rows d)))) := by
  have told (d : Date) : (s.withCurves (ofRows rows)).Ascends setup.construction d ↔
      Ascending (tenorsOn rows d) := ascends_withCurves_iff
  simp only [← told] at disorder ⊢
  obtain ⟨before, d, rest, curve, split, ascends, built, disordered⟩ :=
    exists_first_disorder disorder
  have increasing := fetched.pairwise_days
  rw [split] at increasing
  obtain ⟨first, others, across⟩ := List.pairwise_append.mp increasing
  refine ⟨d, split ▸ by simp, fun ascends => disordered (ascends curve built), ?_, ?_⟩
  · intro e member earlier
    rw [split, List.mem_append, List.mem_cons] at member
    rcases member with member | rfl | member
    · exact ascends e member
    · exact absurd earlier (Int.lt_irrefl _)
    · exact absurd earlier (Int.lt_asymm ((List.pairwise_cons.mp others).1 e member))
  · intro early
    obtain ⟨history, after, calm, -, ran⟩ := exists_replayed live first ascends fun _ _ => rfl
    have failed : ((before ++ [d]).foldlM ((s.withCurves (ofRows rows)).replayDay setup)
        .empty).outcome j = .error (.failed (.nodeOrder d (tenorsOn rows d))) := by
      rw [Work.outcome, ran, List.foldlM_cons, Work.run_bind, Work.outcome,
        run_replayDay_of_disorder calm built disordered, tenors_withCurves built]
    rw [replay, lead, Work.inRange, pure_bind, fetched.size_eq]
    have visited : before ++ [d] <+: fetched.days := ⟨rest, by rw [split, List.append_assoc]; rfl⟩
    refine replayFrom_of_error fetched.first_le_last (Nat.le_refl _) visited ?_ failed
    intro e member
    rcases List.mem_append.mp member with member | member
    · exact Date.lt_trans (across e member d List.mem_cons_self) early
    · exact List.mem_singleton.mp member ▸ early

end Rows

/-- Rows of par rates are loaded, replayed over a window with its lead, and sorted by tenor. If the
rows of every date ascend, then what comes out is the table of the rows turned over, and the dates
without rows are skipped. Otherwise the first date whose rows do not ascend is told. Rows that are
the same date by date are replayed in the same way. -/
theorem replay_transposes_rows (s : Sources α) (setup : ReplaySetup) (rows : List (ParRateRow α))
    {window fetched : DateWindow} (lead : window.fetched? = some fetched) {j : Journal α}
    (live : j.cancelled = false) :
    ∃ store, DataSet.reloaded (ImpliedCurveStore.empty.reload (some ⟨rows, none⟩)) = .ok store ∧
      ((∀ d ∈ fetched.days, Ascending (ParRateRow.tenorsOn rows d)) → window.last < Date.last →
        ∃ history, ((s.withCurves store).replay setup window).outcome j = .ok history ∧
          history.buckets.sortedSeries.map (fun b => (b.1, b.2.samples)) =
            ParRateRow.transposed rows fetched ∧
          history.skippedDays = fetched.days.filter fun d => d ∉ rows.map (·.date)) ∧
      ((∃ d ∈ fetched.days, ¬ Ascending (ParRateRow.tenorsOn rows d)) →
        ∃ d ∈ fetched.days, ¬ Ascending (ParRateRow.tenorsOn rows d) ∧
          (∀ e ∈ fetched.days, e < d → Ascending (ParRateRow.tenorsOn rows e)) ∧
          (d < Date.last → ((s.withCurves store).replay setup window).outcome j =
            .error (.failed (.nodeOrder d (ParRateRow.tenorsOn rows d))))) ∧
      ∀ rows' : List (ParRateRow α),
        (∀ d, rows'.filter (·.date = d) = rows.filter (·.date = d)) →
        ∃ store', DataSet.reloaded (ImpliedCurveStore.empty.reload (some ⟨rows', none⟩)) =
            .ok store' ∧
          store'.Alike store ∧
          (s.withCurves store').replay setup window = (s.withCurves store).replay setup window := by
  refine ⟨.ofRows rows, rfl, fun ascending bounded => ?_, fun disorder => ?_, ?_⟩
  · exact exists_replay_withCurves setup lead bounded live ascending
  · exact exists_disordered_withCurves setup lead live disorder
  · intro rows' same
    have alike := ImpliedCurveStore.alike_ofRows same
    refine ⟨.ofRows rows', rfl, alike, ?_⟩
    have curves : s.withCurves (.ofRows rows') = s.withCurves (.ofRows rows) := by
      simp only [withCurves, alike.curve]
    rw [curves]

/-- Rows of two dates and two tenors. The dates are mixed. -/
def mixedRates : List (ParRateRow Float) :=
  [⟨.monday, ⟨.months, 3⟩, 1.5⟩, ⟨.friday, ⟨.months, 3⟩, 1.0⟩, ⟨.monday, ⟨.years, 1⟩, 2.5⟩]

/-- The same rows, date by date. -/
def datedRates : List (ParRateRow Float) :=
  [⟨.friday, ⟨.months, 3⟩, 1.0⟩, ⟨.monday, ⟨.months, 3⟩, 1.5⟩, ⟨.monday, ⟨.years, 1⟩, 2.5⟩]

/-- The rows again, and one tenor of Friday anew. -/
def repeatedRates : List (ParRateRow Float) := mixedRates ++ [⟨.friday, ⟨.months, 3⟩, 1.1⟩]

theorem transposed_mixedRates :
    ParRateRow.transposed mixedRates weekToMonday =
      [(⟨.months, 3⟩, [(.friday, 1.0), (.monday, 1.5)]), (⟨.years, 1⟩, [(.monday, 2.5)])] := by
  have tenors : ((ParRateRow.within mixedRates weekToMonday).map (·.tenor)).dedup =
      [⟨.months, 3⟩, ⟨.years, 1⟩] := by decide
  have months : byDate (ParRateRow.samplesOf mixedRates weekToMonday ⟨.months, 3⟩) =
      [(.friday, 1.0), (.monday, 1.5)] :=
    DateSeries.byDate_eq (s := ⟨[(.friday, 1.0), (.monday, 1.5)], by decide⟩) (.swap _ _ _)
  have years : byDate (ParRateRow.samplesOf mixedRates weekToMonday ⟨.years, 1⟩) =
      [(.monday, 2.5)] :=
    DateSeries.byDate_eq (s := ⟨[(.monday, 2.5)], by decide⟩) (.refl _)
  rw [ParRateRow.transposed, tenors, List.mergeSort_of_pairwise (by decide), List.map_cons,
    List.map_singleton, months, years]

theorem replay_mixedRates :
    monday.fetched? = some weekToMonday ∧ (Journal.blank false : Journal Float).cancelled = false ∧
      (∀ d ∈ weekToMonday.days, Ascending (ParRateRow.tenorsOn mixedRates d)) ∧
      monday.last < Date.last ∧
      (∃ d ∈ weekToMonday.days, ¬ Ascending (ParRateRow.tenorsOn repeatedRates d)) ∧
      (∀ d, datedRates.filter (·.date = d) = mixedRates.filter (·.date = d)) ∧
      ∃ store store' broken : ImpliedCurveStore Float, store'.Alike store ∧
        (∃ history,
          ((silent.withCurves store).replay ⟨"OIS", Date.isWeekday⟩ monday).outcome (.blank false) =
            .ok history ∧
          history.buckets.sortedSeries.map (fun b => (b.1, b.2.samples)) =
            [(⟨.months, 3⟩, [(.friday, 1.0), (.monday, 1.5)]), (⟨.years, 1⟩, [(.monday, 2.5)])]) ∧
        ((silent.withCurves broken).replay ⟨"OIS", Date.isWeekday⟩ monday).outcome (.blank false) =
          .error (.failed (.nodeOrder .friday [⟨.months, 3⟩, ⟨.months, 3⟩])) := by
  have lead : monday.fetched? = some weekToMonday := by decide
  have ascending : ∀ d ∈ weekToMonday.days, Ascending (ParRateRow.tenorsOn mixedRates d) := by
    decide
  have disorder : ∃ d ∈ weekToMonday.days, ¬ Ascending (ParRateRow.tenorsOn repeatedRates d) :=
    ⟨.friday, by decide, by decide⟩
  have same (d : Date) : datedRates.filter (·.date = d) = mixedRates.filter (·.date = d) := by
    by_cases first : Date.friday = d
    · subst first
      rfl
    · simp [datedRates, mixedRates, List.filter_cons, first]
  have live : (Journal.blank false : Journal Float).cancelled = false := rfl
  obtain ⟨store, -, replayed, -, mixed⟩ :=
    replay_transposes_rows silent ⟨"OIS", Date.isWeekday⟩ mixedRates lead live
  obtain ⟨broken, -, -, told, -⟩ :=
    replay_transposes_rows silent ⟨"OIS", Date.isWeekday⟩ repeatedRates lead live
  obtain ⟨history, ok, table, -⟩ := replayed ascending (by decide)
  obtain ⟨store', -, alike, -⟩ := mixed datedRates same
  rw [transposed_mixedRates] at table
  obtain ⟨d, inside, disordered, -, failed⟩ := told disorder
  have others : ∀ d ∈ weekToMonday.days, d ≠ .friday →
      Ascending (ParRateRow.tenorsOn repeatedRates d) := by decide
  have here : d = .friday := by
    by_contra elsewhere
    exact disordered (others d inside elsewhere)
  subst here
  exact ⟨lead, live, ascending, by decide, disorder, same, store, store', broken, alike,
    ⟨history, ok, table⟩, failed (by decide)⟩

/-- Days of the first week of the calendar. -/
def earliestDays : DateWindow :=
  ⟨⟨-95745822, by decide, by decide⟩, ⟨-95745818, by decide, by decide⟩, by decide⟩

/-- The last day of the calendar. -/
def latestDay : DateWindow := ⟨.last, .last, Int.le_refl _⟩

/-- Ascending rows are not enough: a window in the first week of the calendar has no lead, and after
the last date no further one can be looked for. In both cases the replay aborts. -/
theorem not_forall_replay_transposes :
    ¬ (∀ (rows : List (ParRateRow Float)) (window : DateWindow), window.last < Date.last →
        (∀ d, Ascending (ParRateRow.tenorsOn rows d)) →
        ∃ history, ((silent.withCurves (.ofRows rows)).replay ⟨"OIS", Date.isWeekday⟩
          window).outcome (.blank false) = .ok history) ∧
      ¬ (∀ (rows : List (ParRateRow Float)) (window : DateWindow), window.fetched?.isSome →
        (∀ d, Ascending (ParRateRow.tenorsOn rows d)) →
        ∃ history, ((silent.withCurves (.ofRows rows)).replay ⟨"OIS", Date.isWeekday⟩
          window).outcome (.blank false) = .ok history) := by
  refine ⟨fun succeeds => ?_, fun succeeds => ?_⟩
  · obtain ⟨history, ok⟩ := succeeds [] earliestDays (by decide) fun _ => .nil
    obtain ⟨fetched, lead, -⟩ := completes_of_replay ok
    have leadless : earliestDays.fetched? = none := by decide
    rw [leadless] at lead
    cases lead
  · obtain ⟨history, ok⟩ := succeeds [] latestDay (by decide) fun _ => .nil
    obtain ⟨fetched, lead, completes, -⟩ := completes_of_replay ok
    obtain ⟨-, last⟩ := DateWindow.fetched?_eq_some.mp lead
    exact Int.lt_irrefl _ (last ▸ completes.bounded)

end Sources

end CurvePnl
