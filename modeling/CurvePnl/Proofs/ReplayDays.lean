import CurvePnl.Attribution.Replay
import CurvePnl.Proofs.Buckets
import CurvePnl.Proofs.TenorOrder
import CurvePnl.Proofs.Window
import CurvePnl.Proofs.Work

/-! # The days of a replay

A replay is described day by day: the outcome of a day, the events it is told by, and the samples
that it adds for each tenor. Days come in increasing order and the tenors of a day are distinct,
so gathering a day never fails. After some days the history and the journal tell of these days and
of no others, until a curve with disordered tenors ends the replay.
-/

namespace CurvePnl

variable {α : Type}

/-- The samples that the points of a day add for a tenor. -/
def samplesOn (day : Date) (points : List (Tenor × α)) (tenor : Tenor) : List (Sample α) :=
  points.filterMap fun p => if p.1 = tenor then some (day, p.2) else none

theorem mem_samplesOn {day d : Date} {points : List (Tenor × α)} {tenor : Tenor} {rate : α} :
    (d, rate) ∈ samplesOn day points tenor ↔ d = day ∧ (tenor, rate) ∈ points := by
  simp only [samplesOn, List.mem_filterMap]
  constructor
  · rintro ⟨⟨t, r⟩, member, same⟩
    split at same
    next here =>
      cases same
      cases here
      exact ⟨rfl, member⟩
    · cases same
  · rintro ⟨rfl, member⟩
    exact ⟨_, member, if_pos rfl⟩

theorem ImpliedHistory.exists_gather {buckets : BucketCollection Tenor α} (sound : buckets.Sound)
    {day : Date} {points : List (Tenor × α)} (distinct : (points.map (·.1)).Nodup)
    (later : ∀ tenor ∈ points.map (·.1), ∀ a ∈ buckets.held tenor, a.1 < day) :
    ∃ gathered, gather buckets day points = .ok gathered ∧ gathered.Sound ∧
      ∀ tenor, gathered.held tenor = buckets.held tenor ++ samplesOn day points tenor := by
  induction points generalizing buckets with
  | nil => exact ⟨buckets, rfl, sound, fun tenor => (List.append_nil _).symm⟩
  | cons p rest ih =>
      obtain ⟨t, rate⟩ := p
      obtain ⟨fresh, distinct⟩ := List.nodup_cons.mp distinct
      obtain ⟨added, add, sound', held, others⟩ :=
        sound.exists_add rate (later t List.mem_cons_self)
      have later' : ∀ tenor ∈ rest.map (·.1), ∀ a ∈ added.held tenor, a.1 < day := by
        intro tenor member
        have other : tenor ≠ t := fun same => fresh (same ▸ member)
        rw [others tenor other]
        exact later tenor (List.mem_cons_of_mem _ member)
      obtain ⟨gathered, rest_ok, sound'', all⟩ := ih sound' distinct later'
      refine ⟨gathered, ?_, sound'', ?_⟩
      · simp only [gather, add, rest_ok]
      · intro tenor
        rw [all]
        by_cases same : t = tenor
        · subst same
          simp [held, samplesOn]
        · simp [others tenor (Ne.symm same), samplesOn, same]

namespace Sources

variable (s : Sources α)

/-- The points of the curve of a day; none if its construction fails. -/
def pointsOn (construction : ConstructionName) (day : Date) : List (Tenor × α) :=
  match (s.impliedCurve construction day).curve with
  | .ok curve => curve.points
  | .error _ => []

/-- If the curve of a day can be constructed, then its tenors ascend. -/
def Ascends (construction : ConstructionName) (day : Date) : Prop :=
  ∀ curve, (s.impliedCurve construction day).curve = .ok curve → Ascending curve.tenors

/-- What comes of a day whose tenors ascend. -/
def dayOutcome (setup : ReplaySetup) (day : Date) : DayOutcome :=
  match (s.impliedCurve setup.construction day).curve with
  | .ok curve => .built day curve.tenors.length
  | .error e => .skipped day e.message (setup.workingDay day)

/-- The warning that a day is worth: that its construction failed, on a working day. -/
def dayWarning? (setup : ReplaySetup) (day : Date) : Option (Event α) :=
  match (s.impliedCurve setup.construction day).curve with
  | .ok _ => none
  | .error e =>
    if setup.workingDay day then some (.constructionFailed day setup.construction e) else none

/-- All that is told of a day: its curve if it was built, or else the warning. -/
def dayEvents (setup : ReplaySetup) (day : Date) : List (Event α) :=
  match (s.impliedCurve setup.construction day).curve with
  | .ok curve => [.curveBuilt day curve.tenors.length]
  | .error _ => (s.dayWarning? setup day).toList

theorem eventsFrom_warn_dayEvents (setup : ReplaySetup) (day : Date) :
    eventsFrom .warn (s.dayEvents setup day) = (s.dayWarning? setup day).toList := by
  unfold dayEvents dayWarning?
  cases (s.impliedCurve setup.construction day).curve with
  | ok curve => rfl
  | error e => cases setup.workingDay day <;> rfl

variable {s} {setup : ReplaySetup} {history : ImpliedHistory α} {day : Date} {j : Journal α}

/-- The journal after the curve of a day was asked for, with the flag that the source may set. -/
def asked (s : Sources α) (construction : ConstructionName) (day : Date) (j : Journal α) :
    Journal α :=
  { j with
    calls := j.calls.push (.impliedCurve construction day)
    cancelled := j.cancelled || (s.impliedCurve construction day).cancels }

theorem run_askImpliedCurve (construction : ConstructionName) :
    (s.askImpliedCurve construction day).run.run j =
      (.ok (s.impliedCurve construction day).curve, s.asked construction day j) := by
  obtain ⟨calls, events, cancelled⟩ := j
  unfold askImpliedCurve asked
  generalize s.impliedCurve construction day = built
  obtain ⟨curve, cancels⟩ := built
  cases cancels <;> cases cancelled <;> rfl

theorem run_replayDay_of_cancelled (cancelled : j.cancelled = true) :
    (s.replayDay setup history day).run.run j = (.error (.failed (.cancelled day)), j) := by
  rw [replayDay, Work.run_get_bind, cancelled]
  rfl

theorem run_replayDay_of_error (live : j.cancelled = false) {e : SourceError}
    (failed : (s.impliedCurve setup.construction day).curve = .error e) :
    (s.replayDay setup history day).run.run j =
      (.ok (history.push (.skipped day e.message (setup.workingDay day))),
        { s.asked setup.construction day j with
          events := if setup.workingDay day then
              j.events.push (.constructionFailed day setup.construction e)
            else j.events }) := by
  rw [replayDay, Work.run_get_bind, live]
  simp only [Bool.false_eq_true, if_false, Work.run_bind, Work.outcome, Work.journal,
    run_askImpliedCurve, failed]
  cases setup.workingDay day <;> rfl

theorem run_replayDay_of_disorder (live : j.cancelled = false) {curve : ImpliedCurve α}
    (built : (s.impliedCurve setup.construction day).curve = .ok curve)
    (disorder : ¬ Ascending curve.tenors) :
    (s.replayDay setup history day).run.run j =
      (.error (.failed (.nodeOrder day curve.tenors)), s.asked setup.construction day j) := by
  have disorder := mt ImpliedCurve.isAscending_iff.mp disorder
  rw [replayDay, Work.run_get_bind, live]
  simp only [Bool.false_eq_true, if_false, Work.run_bind, Work.outcome, Work.journal,
    run_askImpliedCurve, built, disorder]
  rfl

theorem run_replayDay_of_ok (live : j.cancelled = false) {curve : ImpliedCurve α}
    (built : (s.impliedCurve setup.construction day).curve = .ok curve)
    (ascending : Ascending curve.tenors) {buckets : BucketCollection Tenor α}
    (gathered : ImpliedHistory.gather history.buckets day curve.points = .ok buckets) :
    (s.replayDay setup history day).run.run j =
      (.ok ({ history with buckets }.push (.built day curve.points.length)),
        { s.asked setup.construction day j with
          events := j.events.push (.curveBuilt day curve.points.length) }) := by
  have ascending := ImpliedCurve.isAscending_iff.mpr ascending
  rw [replayDay, Work.run_get_bind, live]
  simp only [Bool.false_eq_true, if_false, Work.run_bind, Work.outcome, Work.journal,
    run_askImpliedCurve, built, ascending, gathered, if_true]
  rfl

/-- The history of a tenor, as the given days report it. -/
def harvest (s : Sources α) (construction : ConstructionName) (days : List Date)
    (tenor : Tenor) : List (Sample α) :=
  days.flatMap fun day => samplesOn day (s.pointsOn construction day) tenor

/-- One of the days reports the tenor. -/
def Reported (s : Sources α) (construction : ConstructionName) (days : List Date)
    (tenor : Tenor) : Prop :=
  ∃ day ∈ days, ∃ curve, (s.impliedCurve construction day).curve = .ok curve ∧
    tenor ∈ curve.tenors

theorem mem_pointsOn {construction : ConstructionName} {p : Tenor × α} :
    p ∈ s.pointsOn construction day ↔
      ∃ curve, (s.impliedCurve construction day).curve = .ok curve ∧ p ∈ curve.points := by
  unfold pointsOn
  cases (s.impliedCurve construction day).curve <;> simp

theorem mem_harvest {construction : ConstructionName} {days : List Date} {tenor : Tenor}
    {d : Date} {rate : α} :
    (d, rate) ∈ s.harvest construction days tenor ↔
      d ∈ days ∧ (tenor, rate) ∈ s.pointsOn construction d := by
  simp only [harvest, List.mem_flatMap, mem_samplesOn]
  constructor
  · rintro ⟨day, member, rfl, point⟩
    exact ⟨member, point⟩
  · rintro ⟨member, point⟩
    exact ⟨d, member, rfl, point⟩

theorem harvest_ne_nil_iff {construction : ConstructionName} {days : List Date}
    {tenor : Tenor} :
    s.harvest construction days tenor ≠ [] ↔ s.Reported construction days tenor := by
  constructor
  · intro nonempty
    obtain ⟨⟨d, rate⟩, member⟩ := List.exists_mem_of_ne_nil _ nonempty
    obtain ⟨inside, point⟩ := mem_harvest.mp member
    obtain ⟨curve, built, point⟩ := mem_pointsOn.mp point
    exact ⟨d, inside, curve, built, List.mem_map_of_mem point⟩
  · rintro ⟨d, inside, curve, built, member⟩
    obtain ⟨⟨t, rate⟩, point, rfl⟩ := List.mem_map.mp member
    exact List.ne_nil_of_mem (mem_harvest.mpr ⟨inside, mem_pointsOn.mpr ⟨curve, built, point⟩⟩)

/-- The history and the journal tell of the given days and of nothing else, if the replay began
with the journal `before`. -/
structure Replayed (s : Sources α) (setup : ReplaySetup) (before : Journal α) (days : List Date)
    (history : ImpliedHistory α) (after : Journal α) : Prop where
  sound : history.buckets.Sound
  held : ∀ tenor, history.buckets.held tenor = s.harvest setup.construction days tenor
  outcomes : history.outcomes.toList = days.map (s.dayOutcome setup)
  calls : after.calls.toList =
    before.calls.toList ++ days.map (.impliedCurve setup.construction)
  events : after.events.toList = before.events.toList ++ days.flatMap (s.dayEvents setup)
  cancelled : after.cancelled =
    (before.cancelled || days.any fun day => (s.impliedCurve setup.construction day).cancels)

namespace Replayed

variable {before : Journal α} {days : List Date}

theorem of_no_days : s.Replayed setup before [] .empty before where
  sound := BucketCollection.sound_empty
  held := by simp [ImpliedHistory.empty, harvest]
  outcomes := rfl
  calls := by simp
  events := by simp
  cancelled := by simp

theorem exists_step (replayed : s.Replayed setup before days history j)
    (live : j.cancelled = false) (later : ∀ d ∈ days, d < day)
    (ascends : s.Ascends setup.construction day) :
    ∃ history' after, (s.replayDay setup history day).run.run j = (.ok history', after) ∧
      s.Replayed setup before (days ++ [day]) history' after := by
  cases built : (s.impliedCurve setup.construction day).curve with
  | error e =>
      refine ⟨_, _, run_replayDay_of_error live built, ?_⟩
      constructor
      case sound => exact replayed.sound
      case held =>
        intro tenor
        simp [harvest, pointsOn, built, samplesOn, ImpliedHistory.push, replayed.held]
      case outcomes => simp [ImpliedHistory.push, replayed.outcomes, dayOutcome, built]
      case calls => simp [asked, replayed.calls]
      case events =>
        cases working : setup.workingDay day with
        | true => simp [replayed.events, dayEvents, dayWarning?, built, working]
        | false => simp [replayed.events, dayEvents, dayWarning?, built, working]
      case cancelled => simp [asked, replayed.cancelled, Bool.or_assoc]
  | ok curve =>
      -- All that is held is dated by an earlier day, so gathering this day cannot fail.
      have ascending := ascends curve built
      have held_before : ∀ tenor ∈ curve.points.map (·.1),
          ∀ a ∈ history.buckets.held tenor, a.1 < day := by
        intro tenor _ a member
        rw [replayed.held] at member
        exact later a.1 (mem_harvest.mp member).1
      obtain ⟨buckets, gathered, sound, held⟩ :=
        ImpliedHistory.exists_gather replayed.sound ascending.nodup held_before
      refine ⟨_, _, run_replayDay_of_ok live built ascending gathered, ?_⟩
      constructor
      case sound => exact sound
      case held =>
        intro tenor
        simp [harvest, pointsOn, built, ImpliedHistory.push, held, replayed.held]
      case outcomes =>
        simp [ImpliedHistory.push, replayed.outcomes, dayOutcome, built, ImpliedCurve.tenors]
      case calls => simp [asked, replayed.calls]
      case events => simp [replayed.events, dayEvents, built, ImpliedCurve.tenors]
      case cancelled => simp [asked, replayed.cancelled, Bool.or_assoc]

theorem cancelled_of_step {after : Journal α} {history' : ImpliedHistory α}
    (replayed : s.Replayed setup before days history j) (live : j.cancelled = false)
    (replayed' : s.Replayed setup before (days ++ [day]) history' after) :
    after.cancelled = (s.impliedCurve setup.construction day).cancels := by
  rw [replayed'.cancelled, List.any_append, ← Bool.or_assoc, ← replayed.cancelled, live]
  simp

/-- Further days on which nothing is wrong are all worked on, whatever days follow them. -/
theorem exists_run {done : List Date} (replayed : s.Replayed setup before done history j)
    (live : j.cancelled = false) (increasing : (done ++ days).Pairwise (· < ·))
    (ascends : ∀ d ∈ days, s.Ascends setup.construction d)
    (undisturbed : ∀ d ∈ days, (s.impliedCurve setup.construction d).cancels = false) :
    ∃ history' after, after.cancelled = false ∧
      s.Replayed setup before (done ++ days) history' after ∧
      ∀ rest, ((days ++ rest).foldlM (s.replayDay setup) history).run.run j =
        (rest.foldlM (s.replayDay setup) history').run.run after := by
  -- The days done so far grow with each step, and `replayed` tells all about them.
  induction days generalizing done history j with
  | nil =>
      rw [List.append_nil]
      exact ⟨history, j, live, replayed, fun rest => rfl⟩
  | cons d days ih =>
      have later : ∀ e ∈ done, e < d := fun e member =>
        (List.pairwise_append.mp increasing).2.2 e member d List.mem_cons_self
      obtain ⟨history', after, ran, replayed'⟩ :=
        replayed.exists_step live later (ascends d List.mem_cons_self)
      have live' : after.cancelled = false :=
        (replayed.cancelled_of_step live replayed').trans (undisturbed d List.mem_cons_self)
      rw [List.append_cons] at increasing ⊢
      obtain ⟨last, final, calm, told, rests⟩ := ih replayed' live' increasing
        (fun e member => ascends e (List.mem_cons_of_mem d member))
        (fun e member => undisturbed e (List.mem_cons_of_mem d member))
      refine ⟨last, final, calm, told, ?_⟩
      intro rest
      rw [List.cons_append, List.foldlM_cons, Work.run_bind, Work.outcome, Work.journal, ran]
      exact rests rest

/-- Days that were worked on without an error had ascending tenors, and none but the last of them
cancelled the work. -/
theorem of_ok {done : List Date} (replayed : s.Replayed setup before done history j)
    (increasing : (done ++ days).Pairwise (· < ·)) {history' : ImpliedHistory α}
    (ok : (days.foldlM (s.replayDay setup) history).outcome j = .ok history') :
    s.Replayed setup before (done ++ days) history'
        ((days.foldlM (s.replayDay setup) history).journal j) ∧
      (days ≠ [] → j.cancelled = false) ∧ (∀ d ∈ days, s.Ascends setup.construction d) ∧
      ∀ d ∈ days.dropLast, (s.impliedCurve setup.construction d).cancels = false := by
  induction days generalizing done history j with
  | nil =>
      cases ok
      simpa using replayed
  | cons d days ih =>
      rw [List.foldlM_cons, Work.outcome_bind_eq_ok] at ok
      obtain ⟨next, first, rest⟩ := ok
      have live : j.cancelled = false := by
        by_contra cancelled
        rw [Work.outcome, run_replayDay_of_cancelled (eq_true_of_ne_false cancelled)] at first
        cases first
      have ascends : s.Ascends setup.construction d := by
        intro curve built
        by_contra disorder
        rw [Work.outcome, run_replayDay_of_disorder live built disorder] at first
        cases first
      have later : ∀ e ∈ done, e < d := fun e member =>
        (List.pairwise_append.mp increasing).2.2 e member d List.mem_cons_self
      obtain ⟨_, after, ran, replayed'⟩ := replayed.exists_step live later ascends
      rw [List.foldlM_cons, Work.journal_bind_of_ok first]
      rw [Work.outcome, ran] at first
      cases first
      simp only [Work.journal, ran] at rest ⊢
      rw [List.append_cons] at increasing ⊢
      obtain ⟨told, more, ascend, undisturbed⟩ := ih replayed' increasing rest
      refine ⟨told, fun _ => live, List.forall_mem_cons.mpr ⟨ascends, ascend⟩, ?_⟩
      -- The flag that a day leaves is looked at by the next day only, if there is one.
      cases days with
      | nil => simp
      | cons e days =>
          have calm := more (List.cons_ne_nil e days)
          rw [replayed.cancelled_of_step live replayed'] at calm
          rw [List.dropLast_cons_of_ne_nil (List.cons_ne_nil e days)]
          exact List.forall_mem_cons.mpr ⟨calm, undisturbed⟩

/-- The bucket of a tenor holds what the days report of it, and there is one only if they do. -/
theorem get?_eq_some_iff (replayed : s.Replayed setup before days history j) {tenor : Tenor}
    {series : DateSeries α} :
    history.buckets.get? tenor = some series ↔
      s.Reported setup.construction days tenor ∧
        series.samples = s.harvest setup.construction days tenor := by
  rw [replayed.sound.held_eq_iff, replayed.held, ← harvest_ne_nil_iff,
    eq_comm (b := series.samples)]
  exact and_congr_left fun same => by rw [same]

theorem ascending_tenors (replayed : s.Replayed setup before days history j) :
    Ascending (history.buckets.sortedSeries.map (·.1)) :=
  BucketCollection.pairwise_sortedSeries replayed.sound

theorem mem_tenors (replayed : s.Replayed setup before days history j) {tenor : Tenor} :
    tenor ∈ history.buckets.sortedSeries.map (·.1) ↔ s.Reported setup.construction days tenor := by
  simp only [List.mem_map, Prod.exists, exists_and_right, exists_eq_right,
    BucketCollection.mem_sortedSeries replayed.sound]
  constructor
  · rintro ⟨series, found⟩
    exact (replayed.get?_eq_some_iff.mp found).1
  · intro reported
    have nonempty := harvest_ne_nil_iff.mpr reported
    rw [← replayed.held, BucketCollection.held] at nonempty
    split at nonempty
    next series found => exact ⟨series, found⟩
    · exact absurd rfl nonempty

end Replayed

theorem eventsFrom_append (lowest : Level) (l m : List (Event α)) :
    eventsFrom lowest (l ++ m) = eventsFrom lowest l ++ eventsFrom lowest m :=
  List.filter_append l m

theorem Replayed.warnings {before : Journal α} {days : List Date}
    (replayed : s.Replayed setup before days history j) :
    eventsFrom .warn j.events.toList =
      eventsFrom .warn before.events.toList ++ days.filterMap (s.dayWarning? setup) := by
  have ofDays : eventsFrom .warn (days.flatMap (s.dayEvents setup)) =
      days.filterMap (s.dayWarning? setup) := by
    clear replayed
    induction days with
    | nil => rfl
    | cons d rest ih =>
        rw [List.flatMap_cons, eventsFrom_append, eventsFrom_warn_dayEvents, ih,
          List.filterMap_cons]
        cases s.dayWarning? setup d <;> rfl
  rw [replayed.events, eventsFrom_append, ofDays]

theorem exists_replayed {days : List Date} (live : j.cancelled = false)
    (increasing : days.Pairwise (· < ·)) (ascends : ∀ d ∈ days, s.Ascends setup.construction d)
    (undisturbed : ∀ d ∈ days, (s.impliedCurve setup.construction d).cancels = false) :
    ∃ history after, after.cancelled = false ∧ s.Replayed setup j days history after ∧
      ∀ rest, ((days ++ rest).foldlM (s.replayDay setup) .empty).run.run j =
        (rest.foldlM (s.replayDay setup) history).run.run after :=
  Replayed.of_no_days.exists_run live increasing ascends undisturbed

end Sources

end CurvePnl
