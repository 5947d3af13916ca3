import CurvePnl.Proofs.ReplayDays

/-! # What a replay finds

A replay works on the days from a week before its window to the end of the window. It gets to the
end exactly if nothing on the way cancels it and all tenors ascend.
-/

namespace CurvePnl.Sources

variable {α : Type} {s : Sources α} {setup : ReplaySetup} {history : ImpliedHistory α}
  {day : Date} {j : Journal α}

theorem replayFrom_eq_foldlM {last : Date} (bounded : last < Date.last) (inside : day ≤ last) :
    s.replayFrom setup last (last.number + 1 - day.number).toNat history day =
      (day.through last).foldlM (s.replayDay setup) history := by
  obtain ⟨n, count⟩ : ∃ n, (last.number + 1 - day.number).toNat = n := ⟨_, rfl⟩
  rw [count]
  induction n generalizing day history with
  | zero =>
      rw [Date.le_def] at inside
      omega
  | succ n ih =>
      obtain ⟨next, follows⟩ := Date.exists_succ? (Int.lt_of_le_of_lt inside bounded)
      have number := Date.succ?_eq_some.mp follows
      rw [replayFrom, follows, Work.inRange, pure_bind]
      split
      next more =>
        have rest (h : ImpliedHistory α) : s.replayFrom setup last n h next =
            (next.through last).foldlM (s.replayDay setup) h := ih more (by omega)
        simp only [rest, Date.through_of_succ? follows more, List.foldlM_cons]
      next done =>
        have same : day = last := Date.ext_number (by
          rw [Date.le_def] at inside done
          omega)
        simp [same, Date.through_self]

/-- A replay works on the days of the fetched window, one after the other. -/
theorem replay_eq_foldlM {window fetched : DateWindow} {weeks : Nat}
    (lead : window.fetched? weeks = some fetched) (bounded : window.last < Date.last) :
    s.replay setup window weeks = fetched.days.foldlM (s.replayDay setup) .empty := by
  obtain ⟨-, last⟩ := DateWindow.fetchedBy_eq_some.mp lead
  rw [replay, lead, Work.inRange, pure_bind, fetched.size_eq]
  exact replayFrom_eq_foldlM (last ▸ bounded) fetched.first_le_last

theorem bounded_of_replayFrom {last : Date} {n : Nat} {history' : ImpliedHistory α}
    (inside : day ≤ last) (enough : (last.number + 1 - day.number).toNat ≤ n)
    (ok : (s.replayFrom setup last n history day).outcome j = .ok history') :
    last < Date.last := by
  induction n generalizing day history j with
  | zero =>
      rw [Date.le_def] at inside
      omega
  | succ n ih =>
      obtain ⟨next, follows, ok⟩ := Work.outcome_bind_eq_ok.mp ok
      have number := Date.succ?_eq_some.mp (Work.outcome_inRange_eq_ok.mp follows)
      obtain ⟨later, -, ok⟩ := Work.outcome_bind_eq_ok.mp ok
      split at ok
      next more => exact ih more (by omega) ok
      next done =>
        have bound := next.number_le_last
        rw [Date.le_def] at inside done
        rw [Date.lt_def]
        omega

/-- Nothing keeps a replay from reaching the end of its window: the window ends before the last
date of all, the work is not cancelled before the last day is done, and all tenors ascend. -/
structure Completes (s : Sources α) (construction : ConstructionName) (fetched : DateWindow)
    (cancelled : Bool) : Prop where
  bounded : fetched.last < Date.last
  live : cancelled = false
  undisturbed : ∀ d ∈ fetched.days, d < fetched.last →
    (s.impliedCurve construction d).cancels = false
  ascends : ∀ d ∈ fetched.days, s.Ascends construction d

theorem Completes.exists_replay (setup : ReplaySetup) {window fetched : DateWindow}
    (lead : window.fetched? = some fetched)
    (completes : s.Completes setup.construction fetched j.cancelled) :
    ∃ history, (s.replay setup window).outcome j = .ok history := by
  obtain ⟨-, last⟩ := DateWindow.fetched?_eq_some.mp lead
  obtain ⟨before, split, earlier⟩ := fetched.exists_days_eq
  have increasing := fetched.pairwise_days
  have inside : ∀ d ∈ before, d ∈ fetched.days := fun d member => split ▸ by simp [member]
  rw [split] at increasing
  obtain ⟨first, -, order⟩ := List.pairwise_append.mp increasing
  obtain ⟨history, after, calm, replayed, ran⟩ := exists_replayed completes.live first
    (fun d member => completes.ascends d (inside d member))
    (fun d member => completes.undisturbed d (inside d member) (earlier d member))
  -- The last day is taken alone, since it may still set the flag.
  obtain ⟨history', after', ended, -⟩ := replayed.exists_step calm earlier
    (completes.ascends fetched.last (split ▸ by simp))
  refine ⟨history', ?_⟩
  rw [replay_eq_foldlM lead (last ▸ completes.bounded), split, Work.outcome, ran, List.foldlM_cons,
    Work.run_bind, Work.outcome, Work.journal, ended]
  rfl

theorem completes_of_replay {window : DateWindow} {weeks : Nat}
    (ok : (s.replay setup window weeks).outcome j = .ok history) :
    ∃ fetched, window.fetched? weeks = some fetched ∧
      s.Completes setup.construction fetched j.cancelled ∧
      s.Replayed setup j fetched.days history ((s.replay setup window weeks).journal j) := by
  obtain ⟨fetched, found, walked⟩ := Work.outcome_bind_eq_ok.mp ok
  have lead := Work.outcome_inRange_eq_ok.mp found
  have bounded :=
    bounded_of_replayFrom fetched.first_le_last (Nat.le_of_eq fetched.size_eq.symm) walked
  obtain ⟨-, last⟩ := DateWindow.fetchedBy_eq_some.mp lead
  obtain ⟨before, split, earlier⟩ := fetched.exists_days_eq
  rw [replay_eq_foldlM lead (last ▸ bounded)] at ok ⊢
  have increasing : ([] ++ fetched.days).Pairwise (· < ·) := fetched.pairwise_days
  obtain ⟨replayed, live, ascends, undisturbed⟩ := Replayed.of_no_days.of_ok increasing ok
  refine ⟨fetched, lead, ⟨bounded, live (by simp [split]), ?_, ascends⟩, replayed⟩
  intro d member early
  rw [split, List.dropLast_concat] at undisturbed
  rw [split, List.mem_append, List.mem_singleton] at member
  rcases member with member | rfl
  · exact undisturbed d member
  · exact absurd early (Int.lt_irrefl _)

theorem replayed_of_replay {window fetched : DateWindow} {weeks : Nat}
    (lead : window.fetched? weeks = some fetched)
    (ok : (s.replay setup window weeks).outcome j = .ok history) :
    s.Replayed setup j fetched.days history ((s.replay setup window weeks).journal j) := by
  obtain ⟨fetched', lead', -, replayed⟩ := completes_of_replay ok
  rw [lead] at lead'
  cases lead'
  exact replayed

theorem exists_first_disorder {construction : ConstructionName} {days : List Date}
    (disorder : ∃ d ∈ days, ¬ s.Ascends construction d) :
    ∃ before d rest curve, days = before ++ d :: rest ∧
      (∀ e ∈ before, s.Ascends construction e) ∧
      (s.impliedCurve construction d).curve = .ok curve ∧ ¬ Ascending curve.tenors := by
  induction days with
  | nil => simp at disorder
  | cons d days ih =>
      by_cases ascends : s.Ascends construction d
      · have later : ∃ e ∈ days, ¬ s.Ascends construction e := by simpa [ascends] using disorder
        obtain ⟨before, e, rest, curve, rfl, earlier, found⟩ := ih later
        exact ⟨d :: before, e, rest, curve, rfl, List.forall_mem_cons.mpr ⟨ascends, earlier⟩, found⟩
      · simp only [Ascends, not_forall] at ascends
        obtain ⟨curve, built, disorder⟩ := ascends
        exact ⟨[], d, days, curve, rfl, by simp, built, disorder⟩

/-- A replay that nobody cancels visits the days from a week before the window to its end. If the
tenors of every day ascend, then its history tells of all these days and of no others. Otherwise
the first day on which they do not ends it. -/
theorem replay_visits_every_day (setup : ReplaySetup) {window fetched : DateWindow}
    (lead : window.fetched? = some fetched) (bounded : window.last < Date.last) {j : Journal α}
    (live : j.cancelled = false)
    (undisturbed : ∀ d ∈ fetched.days, (s.impliedCurve setup.construction d).cancels = false) :
    (fetched.days.Pairwise (· < ·) ∧ ∀ d, d ∈ fetched.days ↔
        window.first.number - 7 ≤ d.number ∧ d ≤ window.last) ∧
      ((∀ d ∈ fetched.days, s.Ascends setup.construction d) →
        ∃ history after, (s.replay setup window).run.run j = (.ok history, after) ∧
          history.outcomes.toList = fetched.days.map (s.dayOutcome setup) ∧
          (∀ tenor series, history.buckets.get? tenor = some series ↔
            s.Reported setup.construction fetched.days tenor ∧
              series.samples = s.harvest setup.construction fetched.days tenor) ∧
          (∀ tenor series, (tenor, series) ∈ history.buckets.buckets ↔
            history.buckets.get? tenor = some series) ∧
          (history.buckets.buckets.toList.map (·.1)).Nodup ∧
          eventsFrom .warn after.events.toList = eventsFrom .warn j.events.toList ++
            fetched.days.filterMap (s.dayWarning? setup) ∧
          after.calls.toList = j.calls.toList ++
            fetched.days.map (.impliedCurve setup.construction)) ∧
      ((∃ d ∈ fetched.days, ¬ s.Ascends setup.construction d) →
        ∃ before d rest curve after, fetched.days = before ++ d :: rest ∧
          (∀ e ∈ before, s.Ascends setup.construction e) ∧
          (s.impliedCurve setup.construction d).curve = .ok curve ∧
          ¬ Ascending curve.tenors ∧
          (s.replay setup window).run.run j =
            (.error (.failed (.nodeOrder d curve.tenors)), after) ∧
          eventsFrom .warn after.events.toList = eventsFrom .warn j.events.toList ++
            before.filterMap (s.dayWarning? setup) ∧
          after.calls.toList = j.calls.toList ++
            (before ++ [d]).map (.impliedCurve setup.construction)) := by
  have increasing := fetched.pairwise_days
  rw [replay_eq_foldlM lead bounded]
  refine ⟨⟨increasing, ?_⟩, ?_, ?_⟩
  · intro d
    obtain ⟨first, last⟩ := DateWindow.fetched?_eq_some.mp lead
    rw [DateWindow.mem_days, Date.le_def, first, last]
  · intro ascends
    obtain ⟨history, after, -, replayed, ran⟩ :=
      exists_replayed live increasing ascends undisturbed
    have ran := ran []
    rw [List.append_nil] at ran
    exact ⟨history, after, ran, replayed.outcomes, fun _ _ => replayed.get?_eq_some_iff,
      fun _ _ => replayed.sound.get?_eq_some_iff.symm, replayed.sound.nodup_keys,
      replayed.warnings, replayed.calls⟩
  · intro disorder
    obtain ⟨before, d, rest, curve, split, ascends, built, disorder⟩ :=
      exists_first_disorder disorder
    rw [split] at increasing undisturbed
    obtain ⟨history, after, calm, replayed, ran⟩ :=
      exists_replayed live (List.pairwise_append.mp increasing).1 ascends fun e member =>
        undisturbed e (List.mem_append_left _ member)
    refine ⟨before, d, rest, curve, s.asked setup.construction d after, split, ascends, built,
      disorder, ?_, replayed.warnings, ?_⟩
    · rw [split, ran, List.foldlM_cons, Work.run_bind, Work.outcome, Work.journal,
        run_replayDay_of_disorder calm built disorder]
    · simp [asked, replayed.calls]

/-- A curve of two tenors on Friday, of one of them on Monday, and of none on other days. -/
def sparseCurve : Sources Float :=
  { silent with
    impliedCurve := fun _ day =>
      if day = .friday then ⟨.ok ⟨[(⟨.months, 3⟩, 1.0), (⟨.years, 1⟩, 2.0)]⟩, false⟩
      else if day = .monday then ⟨.ok ⟨[(⟨.years, 1⟩, 2.5)]⟩, false⟩
      else ⟨.error ⟨.constructionFailed, "no quotes"⟩, false⟩ }

theorem cancels_sparseCurve (construction : ConstructionName) (d : Date) :
    (sparseCurve.impliedCurve construction d).cancels = false := by
  simp only [sparseCurve]
  split
  · rfl
  · split <;> rfl

theorem ascends_sparseCurve (construction : ConstructionName) (d : Date) :
    sparseCurve.Ascends construction d := by
  intro curve built
  simp only [sparseCurve] at built
  split at built
  · cases built
    decide
  · split at built
    · cases built
      decide
    · cases built

theorem replay_sparseCurve :
    monday.fetched? = some weekToMonday ∧ monday.last < Date.last ∧
      (∀ d ∈ weekToMonday.days, (sparseCurve.impliedCurve "OIS" d).cancels = false) ∧
      (∀ d ∈ weekToMonday.days, sparseCurve.Ascends "OIS" d) ∧
      ∃ history after, (sparseCurve.replay ⟨"OIS", Date.isWeekday⟩ monday).run.run (.blank false) =
          (.ok history, after) ∧
        history.buckets.get? ⟨.years, 1⟩ = some ⟨[(.friday, 2.0), (.monday, 2.5)], by decide⟩ := by
  have lead : monday.fetched? = some weekToMonday := by decide
  have undisturbed := fun d (_ : d ∈ weekToMonday.days) => cancels_sparseCurve "OIS" d
  have ascends := fun d (_ : d ∈ weekToMonday.days) => ascends_sparseCurve "OIS" d
  obtain ⟨history, after, ran, -, held, -⟩ := (replay_visits_every_day ⟨"OIS", Date.isWeekday⟩
    lead (by decide) (j := .blank false) rfl undisturbed).2.1 ascends
  refine ⟨lead, by decide, undisturbed, ascends, history, after, ran, (held _ _).mpr ⟨?_, rfl⟩⟩
  exact ⟨.monday, DateWindow.mem_days.mpr (by decide), _, rfl, by decide⟩

end CurvePnl.Sources
