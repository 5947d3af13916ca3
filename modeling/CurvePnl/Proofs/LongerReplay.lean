import CurvePnl.Proofs.Cancellation
import CurvePnl.Proofs.Trimming

/-! # Replays that begin earlier

A replay with a longer lead works on some days before the others. If nothing on these days ends it,
then it comes to the first of the other days with more in its history, but no less ready to go on:
from there on it gets to the end, or fails or aborts, as a replay does that begins on that day. A
tenor that both replays report has the same history in both, up to what the longer one reports of
the days before, and a trim that finds a base sample in the lead week drops all of that.
-/

namespace CurvePnl.Sources

variable {α : Type} {s : Sources α} {setup : ReplaySetup} {history history' : ImpliedHistory α}
  {day first last : Date} {j j' : Journal α}

/-- A replay has come to this day. -/
def ComeTo (s : Sources α) (setup : ReplaySetup) (day : Date) (history : ImpliedHistory α)
    (j : Journal α) : Prop :=
  ∃ before days, s.Replayed setup before days history j ∧ ∀ d ∈ days, d < day

theorem ComeTo.exists_step (here : s.ComeTo setup day history j) (live : j.cancelled = false)
    (ascends : s.Ascends setup.construction day) :
    ∃ history' after, (s.replayDay setup history day).run.run j = (.ok history', after) ∧
      after.cancelled = (s.impliedCurve setup.construction day).cancels ∧
      ∀ next, day < next → s.ComeTo setup next history' after := by
  obtain ⟨before, days, replayed, earlier⟩ := here
  obtain ⟨history', after, ran, replayed'⟩ := replayed.exists_step live earlier ascends
  refine ⟨history', after, ran, replayed.cancelled_of_step live replayed', fun next later =>
    ⟨before, days ++ [day], replayed', fun d member => ?_⟩⟩
  rcases List.mem_append.mp member with done | today
  · exact Int.lt_trans (earlier d done) later
  · rwa [List.mem_singleton.mp today]

/-- A replay works off the days before another, if nothing ends it on them. -/
theorem ComeTo.exists_replayFrom_eq (here : s.ComeTo setup day history j)
    (live : j.cancelled = false) (ahead : day ≤ first) (inside : first ≤ last)
    (calm : ∀ d, day ≤ d → d < first → s.Calm setup.construction d) (n : Nat) :
    ∃ history' after, after.cancelled = false ∧ s.ComeTo setup first history' after ∧
      (s.replayFrom setup last (n + (first.number - day.number).toNat) history day).run.run j =
        (s.replayFrom setup last n history' first).run.run after := by
  obtain ⟨k, count⟩ : ∃ k, (first.number - day.number).toNat = k := ⟨_, rfl⟩
  rw [count]
  rw [Date.le_def] at ahead inside
  -- `k` days are left before `first`, and each step works off one of them.
  induction k generalizing day history j with
  | zero =>
      have same : day = first := Date.ext_number (by omega)
      subst same
      exact ⟨history, j, live, here, rfl⟩
  | succ k ih =>
      have early : day < first := Date.lt_def.mpr (by omega)
      obtain ⟨next, follows⟩ := Date.exists_succ? (Int.lt_of_lt_of_le early first.number_le_last)
      have number := Date.succ?_eq_some.mp follows
      have today := calm day (Int.le_refl _) early
      obtain ⟨history', after, ran, flag, come⟩ := here.exists_step live today.ascends
      have later : ∀ d, next ≤ d → d < first → s.Calm setup.construction d := by
        intro d lower upper
        rw [Date.le_def] at lower
        exact calm d (Date.le_def.mpr (by omega)) upper
      obtain ⟨history'', after', live', there, rest⟩ :=
        ih (come next (Date.lt_def.mpr (by omega))) (flag.trans today.undisturbed) (by omega)
          later (by omega)
      refine ⟨history'', after', live', there, ?_⟩
      have more : next ≤ last := Date.le_def.mpr (by omega)
      rw [← Nat.add_assoc, replayFrom, follows, Work.inRange, pure_bind, Work.run_bind,
        Work.outcome, Work.journal, ran]
      simp only [if_pos more, rest]

theorem ComeTo.replayDay_alike (here : s.ComeTo setup day history j)
    (here' : s.ComeTo setup day history' j') (same : j.cancelled = j'.cancelled) :
    (∃ h h', (s.replayDay setup history day).outcome j = .ok h ∧
        (s.replayDay setup history' day).outcome j' = .ok h' ∧
        ((s.replayDay setup history day).journal j).cancelled =
          ((s.replayDay setup history' day).journal j').cancelled ∧
        ∀ next, day < next →
          s.ComeTo setup next h ((s.replayDay setup history day).journal j) ∧
          s.ComeTo setup next h' ((s.replayDay setup history' day).journal j')) ∨
      ∃ e, (s.replayDay setup history day).outcome j = .error e ∧
        (s.replayDay setup history' day).outcome j' = .error e := by
  simp only [Work.outcome, Work.journal]
  cases flag : j.cancelled with
  | true =>
      rw [run_replayDay_of_cancelled flag, run_replayDay_of_cancelled (same.symm.trans flag)]
      exact .inr ⟨_, rfl, rfl⟩
  | false =>
      have flag' : j'.cancelled = false := same.symm.trans flag
      by_cases ascends : s.Ascends setup.construction day
      · obtain ⟨h, after, ran, left, come⟩ := here.exists_step flag ascends
        obtain ⟨h', after', ran', left', come'⟩ := here'.exists_step flag' ascends
        rw [ran, ran']
        exact .inl ⟨h, h', rfl, rfl, left.trans left'.symm,
          fun next later => ⟨come next later, come' next later⟩⟩
      · simp only [Ascends, not_forall] at ascends
        obtain ⟨curve, built, disorder⟩ := ascends
        rw [run_replayDay_of_disorder flag built disorder,
          run_replayDay_of_disorder flag' built disorder]
        exact .inr ⟨_, rfl, rfl⟩

theorem ComeTo.replayFrom_alike (here : s.ComeTo setup day history j)
    (here' : s.ComeTo setup day history' j') (same : j.cancelled = j'.cancelled) (n : Nat) :
    (∃ h h', (s.replayFrom setup last n history day).outcome j = .ok h ∧
        (s.replayFrom setup last n history' day).outcome j' = .ok h') ∨
      ∃ e, (s.replayFrom setup last n history day).outcome j = .error e ∧
        (s.replayFrom setup last n history' day).outcome j' = .error e := by
  induction n generalizing day history history' j j' with
  | zero => exact .inl ⟨history, history', rfl, rfl⟩
  | succ n ih =>
      simp only [replayFrom]
      cases follows : day.succ? with
      | none => exact .inr ⟨.aborted, rfl, rfl⟩
      | some next =>
          have later : day < next := by
            rw [Date.lt_def, Date.succ?_eq_some.mp follows]
            omega
          simp only [Work.inRange, pure_bind]
          rcases here.replayDay_alike here' same with
            ⟨h, h', ok, ok', flag, come⟩ | ⟨e, ended, ended'⟩
          · rw [Work.outcome_bind_of_ok ok, Work.outcome_bind_of_ok ok']
            split
            · exact ih (come next later).1 (come next later).2 flag
            · exact .inl ⟨h, h', rfl, rfl⟩
          · exact .inr ⟨e, Work.outcome_bind_of_error ended, Work.outcome_bind_of_error ended'⟩

variable {longer fetched : DateWindow}

/-- A replay with a longer lead ends as that with the lead of a week, if it begins uncancelled and
nothing ends it on the days that only it works on. -/
theorem replay_alike (setup : ReplaySetup) {window : DateWindow} {weeks : Nat}
    (leads : window.fetched? weeks = some longer) (lead : window.fetched? = some fetched)
    (lengthens : longer.Lengthens fetched)
    (calm : ∀ d ∈ longer.days, d < fetched.first → s.Calm setup.construction d)
    (live : j.cancelled = false) (live' : j'.cancelled = false) :
    (∃ h h', (s.replay setup window weeks).outcome j = .ok h ∧
        (s.replay setup window).outcome j' = .ok h') ∨
      ∃ e, (s.replay setup window weeks).outcome j = .error e ∧
        (s.replay setup window).outcome j' = .error e := by
  have inside := Date.le_def.mp fetched.first_le_last
  have order := Date.le_def.mp lengthens.begins
  have size : longer.size = fetched.size + (fetched.first.number - longer.first.number).toNat := by
    rw [longer.size_eq, fetched.size_eq, lengthens.ends]
    omega
  have begun (first : Date) (j : Journal α) : s.ComeTo setup first .empty j :=
    ⟨j, [], .of_no_days, by simp⟩
  have early (d : Date) (lower : longer.first ≤ d) (upper : d < fetched.first) :
      s.Calm setup.construction d := by
    refine calm d (DateWindow.mem_days.mpr ⟨lower, ?_⟩) upper
    rw [lengthens.ends]
    exact Int.le_trans (Int.le_of_lt upper) fetched.first_le_last
  obtain ⟨history, after, flag, come, worked⟩ := (begun longer.first j).exists_replayFrom_eq live
    lengthens.begins fetched.first_le_last early fetched.size
  rw [replay, replay, leads, lead, Work.inRange, Work.inRange, pure_bind, pure_bind, size,
    lengthens.ends]
  simp only [Work.outcome, worked]
  exact come.replayFrom_alike (begun fetched.first j') (flag.trans live'.symm) fetched.size

/-- The same tenor, with rates that are trimmed to the same. The second ones are those of a window. -/
structure TrimmedAlike (start : Date) (w : DateWindow) (q q' : Tenor × DateSeries α) : Prop where
  tenor : q.1 = q'.1
  trimmed : q.2.trimTo start = q'.2.trimTo start
  inside : ∀ d ∈ q'.2.dates, w.first ≤ d ∧ d ≤ w.last

/-- Both replays have the same tenors, with histories that are trimmed to the same. -/
theorem trimmedAlike_sortedSeries {start : Date} {before before' after after' : Journal α}
    (replayed : s.Replayed setup before longer.days history after)
    (replayed' : s.Replayed setup before' fetched.days history' after')
    (lengthens : longer.Lengthens fetched) (bounded : start ≤ fetched.last)
    (reported : ∀ tenor, s.Reported setup.construction longer.days tenor →
      s.Reported setup.construction fetched.days tenor)
    (sampled : ∀ tenor, s.Reported setup.construction fetched.days tenor →
      ∃ a ∈ s.harvest setup.construction fetched.days tenor, a.1 < start) :
    List.Forall₂ (TrimmedAlike start fetched) history.buckets.sortedSeries
      history'.buckets.sortedSeries := by
  have keys : history.buckets.sortedSeries.map (·.1) = history'.buckets.sortedSeries.map (·.1) := by
    refine replayed.ascending_tenors.eq_of_mem_iff replayed'.ascending_tenors fun t => ?_
    rw [replayed.mem_tenors, replayed'.mem_tenors]
    refine ⟨reported t, fun ⟨d, member, found⟩ => ⟨d, ?_, found⟩⟩
    rw [DateWindow.mem_days] at member ⊢
    exact ⟨Int.le_trans lengthens.begins member.1, lengthens.ends ▸ member.2⟩
  rw [← List.forall₂_eq_eq_eq, List.forall₂_map_left_iff, List.forall₂_map_right_iff,
    List.forall₂_iff_zip] at keys
  refine List.forall₂_iff_zip.mpr ⟨keys.1, fun {q q'} member => ?_⟩
  obtain ⟨t, rates⟩ := q
  obtain ⟨t', rates'⟩ := q'
  cases show t = t' from keys.2 member
  obtain ⟨left, right⟩ := List.of_mem_zip member
  have bucket := (BucketCollection.mem_sortedSeries replayed.sound).mp left
  have bucket' := (BucketCollection.mem_sortedSeries replayed'.sound).mp right
  obtain ⟨-, harvested⟩ := replayed.get?_eq_some_iff.mp bucket
  obtain ⟨told, harvested'⟩ := replayed'.get?_eq_some_iff.mp bucket'
  have base := sampled t told
  rw [← harvested'] at base
  refine ⟨rfl, trimTo_of_harvest lengthens harvested' harvested bounded base, fun d dated => ?_⟩
  obtain ⟨a, member, rfl⟩ := List.mem_map.mp dated
  rw [harvested'] at member
  exact DateWindow.mem_days.mp (mem_harvest.mp member).1

end CurvePnl.Sources
