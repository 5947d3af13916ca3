import CurvePnl.Proofs.Cuts
import CurvePnl.Proofs.Reload
import CurvePnl.Proofs.SortedSamples
import CurvePnl.Store.DataSet
import Mathlib.Data.List.Induction
import Mathlib.Data.List.Nodup

/-! # Histories loaded from rows

Rows of named series come in any order. A store made of them answers with the rows of the series
that it is asked for, cut to the window and sorted by date, whatever the order of the rows was. Rows
that sample a series twice on a date make no store; the first row that does so is told.
-/

namespace CurvePnl

variable {α : Type}

namespace HistoryRow

/-- What a row samples. No two rows of a file may sample the same. -/
def key (row : HistoryRow α) : String × Date := (row.id, row.date)

def sample (row : HistoryRow α) : Sample α := (row.date, row.value)

/-- The samples that rows list for a series, in the order of the rows. -/
def listed (rows : List (HistoryRow α)) (id : String) : List (Sample α) :=
  (rows.filter (·.id = id)).map sample

/-- What rows tell of a series within a window: nothing if no row names the series, and otherwise
the rows of the series that are dated within the window, in the order of their dates. -/
def told (rows : List (HistoryRow α)) (id : String) (window : DateWindow) :
    Except SourceError (List (Sample α)) :=
  if rows.any (·.id = id) then .ok ((byDate (listed rows id)).filter fun a => window.contains a.1)
  else .error ⟨.notFound, "no history for " ++ id⟩

theorem listed_append (rows more : List (HistoryRow α)) (id : String) :
    listed (rows ++ more) id = listed rows id ++ listed more id := by
  simp [listed]

theorem listed_singleton (row : HistoryRow α) (id : String) :
    listed [row] id = if row.id = id then [row.sample] else [] := by
  by_cases here : row.id = id <;> simp [listed, here]

theorem mem_dates_listed {rows : List (HistoryRow α)} {id : String} {d : Date} :
    d ∈ (listed rows id).map (·.1) ↔ (id, d) ∈ rows.map key := by
  simp [listed, key, sample, and_assoc]

theorem listed_eq_nil_iff {rows : List (HistoryRow α)} {id : String} :
    listed rows id = [] ↔ rows.any (·.id = id) = false := by
  simp [listed]

end HistoryRow

/-- Rows with a repeated key have a first row that repeats the key of one before it. -/
theorem exists_first_repeated {β κ : Type} {key : β → κ} {l : List β}
    (repeated : ¬ (l.map key).Nodup) :
    ∃ before b after, l = before ++ b :: after ∧ (before.map key).Nodup ∧
      key b ∈ before.map key := by
  induction l using List.reverseRecOn with
  | nil => exact absurd List.nodup_nil repeated
  | append_singleton before b ih =>
      by_cases distinct : (before.map key).Nodup
      · refine ⟨before, b, [], rfl, distinct, ?_⟩
        by_contra new
        apply repeated
        rw [List.map_append, List.nodup_append']
        exact ⟨distinct, List.nodup_singleton _, by simpa using new⟩
      · obtain ⟨before', b', after, rfl, first⟩ := ih distinct
        exact ⟨before', b', after ++ [b], by simp, first⟩

theorem perm_insertSample? {d : Date} {v : α} {l r : List (Sample α)}
    (h : insertSample? d v l = some r) : r.Perm ((d, v) :: l) := by
  induction l generalizing r with
  | nil =>
      cases h
      exact .refl _
  | cons a rest ih =>
      simp only [insertSample?] at h
      split at h
      · cases h
        exact .refl _
      · split at h
        · obtain ⟨t, inserted, rfl⟩ := Option.map_eq_some_iff.mp h
          exact ((ih inserted).cons a).trans (.swap (d, v) a rest)
        · cases h

theorem insertSample?_eq_none_iff {d : Date} {v : α} {l : List (Sample α)}
    (increasing : l.Pairwise fun a b => a.1 < b.1) :
    insertSample? d v l = none ↔ d ∈ l.map (·.1) := by
  induction l with
  | nil => simp [insertSample?]
  | cons a rest ih =>
      obtain ⟨later, rest_increasing⟩ := List.pairwise_cons.mp increasing
      rw [insertSample?, List.map_cons, List.mem_cons]
      split
      next before =>
        -- All that follows is later still, so the date is not among them.
        have absent : d ∉ rest.map (·.1) := by
          intro member
          obtain ⟨b, follows, rfl⟩ := List.mem_map.mp member
          exact Int.lt_irrefl _ (Int.lt_trans before (later b follows))
        have other : d ≠ a.1 := by
          rintro rfl
          exact Int.lt_irrefl _ before
        simp [absent, other]
      next not_before =>
        split
        next after =>
          have other : d ≠ a.1 := by
            rintro rfl
            exact Int.lt_irrefl _ after
          rw [Option.map_eq_none_iff, ih rest_increasing, or_iff_right other]
        next not_after =>
          have same : d = a.1 :=
            Date.ext_number (Int.le_antisymm (Int.not_lt.mp not_after) (Int.not_lt.mp not_before))
          simp [same]

namespace DateSeries

theorem insert?_eq_none_iff {s : DateSeries α} {d : Date} {v : α} :
    s.insert? d v = none ↔ d ∈ s.dates := by
  rw [dates, ← insertSample?_eq_none_iff (v := v) s.increasing, insert?]
  split
  next refused => simp [refused]
  next r inserted => simp [inserted]

theorem perm_insert? {s t : DateSeries α} {d : Date} {v : α} (h : s.insert? d v = some t) :
    t.samples.Perm ((d, v) :: s.samples) := by
  unfold insert? at h
  split at h
  · cases h
  next r inserted =>
    cases h
    exact perm_insertSample? inserted

end DateSeries

namespace HistoryStore

/-- The samples that a store holds of a series; none of a series that it does not know. -/
def held (s : HistoryStore α) (id : String) : List (Sample α) :=
  ((s.series.lookup id).map DateSeries.samples).getD []

/-- Each name has one series, and no series is empty. -/
structure Sound (s : HistoryStore α) : Prop where
  distinct : (s.series.map (·.1)).Nodup
  nonempty : ∀ x ∈ s.series, x.2.samples ≠ []

theorem held_cons (name : String) (x : DateSeries α) (rest : List (String × DateSeries α))
    (id : String) :
    held ⟨(name, x) :: rest⟩ id = if name = id then x.samples else held ⟨rest⟩ id := by
  unfold held
  by_cases here : name = id
  · simp [here]
  · simp [here, List.lookup_cons, beq_false_of_ne (Ne.symm here)]

theorem addRow?_eq_none_iff {row : HistoryRow α} {series : List (String × DateSeries α)} :
    addRow? row series = none ↔ row.date ∈ (held ⟨series⟩ row.id).map (·.1) := by
  induction series with
  | nil => simp [addRow?, held, DateSeries.insert?_eq_none_iff, DateSeries.dates, DateSeries.empty]
  | cons x rest ih =>
      obtain ⟨name, x⟩ := x
      rw [addRow?, held_cons]
      split
      · rw [Option.map_eq_none_iff, DateSeries.insert?_eq_none_iff, DateSeries.dates]
      · rw [Option.map_eq_none_iff, ih]

theorem perm_held_addRow? {row : HistoryRow α} {series added : List (String × DateSeries α)}
    (h : addRow? row series = some added) (id : String) :
    (held ⟨added⟩ id).Perm (held ⟨series⟩ id ++ HistoryRow.listed [row] id) := by
  have appended {x t : DateSeries α} (inserted : x.insert? row.date row.value = some t) :
      t.samples.Perm (x.samples ++ [row.sample]) :=
    (DateSeries.perm_insert? inserted).trans (List.perm_append_singleton _ _).symm
  rw [HistoryRow.listed_singleton]
  induction series generalizing added with
  | nil =>
      obtain ⟨t, inserted, rfl⟩ := Option.map_eq_some_iff.mp h
      rw [held_cons]
      split
      · exact appended inserted
      · exact .refl _
  | cons x rest ih =>
      obtain ⟨name, x⟩ := x
      unfold addRow? at h
      split at h
      next same =>
        obtain ⟨t, inserted, rfl⟩ := Option.map_eq_some_iff.mp h
        rw [held_cons, held_cons, same]
        split
        · exact appended inserted
        · simp
      next other =>
        obtain ⟨rest_added, added, rfl⟩ := Option.map_eq_some_iff.mp h
        rw [held_cons, held_cons]
        split
        next here =>
          have elsewhere : row.id ≠ id := fun same => other (here.trans same.symm)
          simp [elsewhere]
        · exact ih added

theorem mem_names_addRow? {row : HistoryRow α} {series added : List (String × DateSeries α)}
    (h : addRow? row series = some added) {id : String} :
    id ∈ added.map (·.1) ↔ id = row.id ∨ id ∈ series.map (·.1) := by
  induction series generalizing added with
  | nil =>
      obtain ⟨t, -, rfl⟩ := Option.map_eq_some_iff.mp h
      simp
  | cons x rest ih =>
      unfold addRow? at h
      split at h
      next same =>
        obtain ⟨t, -, rfl⟩ := Option.map_eq_some_iff.mp h
        simp [same]
      next other =>
        obtain ⟨rest_added, added, rfl⟩ := Option.map_eq_some_iff.mp h
        simp only [List.map_cons, List.mem_cons, ih added]
        exact or_left_comm

theorem Sound.addRow? {row : HistoryRow α} {series added : List (String × DateSeries α)}
    (sound : Sound ⟨series⟩) (h : addRow? row series = some added) : Sound ⟨added⟩ := by
  have filled {x t : DateSeries α} (inserted : x.insert? row.date row.value = some t) :
      t.samples ≠ [] := by
    intro empty
    have nothing := DateSeries.perm_insert? inserted
    rw [empty] at nothing
    exact List.cons_ne_nil _ _ nothing.symm.eq_nil
  induction series generalizing added with
  | nil =>
      obtain ⟨t, inserted, rfl⟩ := Option.map_eq_some_iff.mp h
      exact ⟨by simp, by simpa using filled inserted⟩
  | cons x rest ih =>
      obtain ⟨fresh, distinct⟩ := List.nodup_cons.mp sound.distinct
      obtain ⟨full, nonempty⟩ := List.forall_mem_cons.mp sound.nonempty
      unfold HistoryStore.addRow? at h
      split at h
      · obtain ⟨t, inserted, rfl⟩ := Option.map_eq_some_iff.mp h
        exact ⟨sound.distinct, List.forall_mem_cons.mpr ⟨filled inserted, nonempty⟩⟩
      next other =>
        obtain ⟨rest_added, added, rfl⟩ := Option.map_eq_some_iff.mp h
        have rest_sound := ih ⟨distinct, nonempty⟩ added
        refine ⟨List.nodup_cons.mpr ⟨?_, rest_sound.distinct⟩,
          List.forall_mem_cons.mpr ⟨full, rest_sound.nonempty⟩⟩
        intro member
        rcases (mem_names_addRow? added).mp member with same | member
        · exact other same
        · exact fresh member

theorem sound_empty : (empty : HistoryStore α).Sound :=
  ⟨List.nodup_nil, fun _ member => absurd member List.not_mem_nil⟩

/-- The store holds what rows list, and nothing else. -/
structure Holds (s : HistoryStore α) (rows : List (HistoryRow α)) : Prop where
  sound : s.Sound
  held : ∀ id, (s.held id).Perm (HistoryRow.listed rows id)

namespace Holds

variable {s t : HistoryStore α} {rows rows' : List (HistoryRow α)} {id : String}

theorem of_no_rows : (empty : HistoryStore α).Holds [] := ⟨sound_empty, fun _ => .refl _⟩

theorem addRow?_eq_none_iff (holds : s.Holds rows) {row : HistoryRow α} :
    addRow? row s.series = none ↔ row.key ∈ rows.map HistoryRow.key := by
  rw [HistoryStore.addRow?_eq_none_iff, ((holds.held row.id).map _).mem_iff,
    HistoryRow.mem_dates_listed, HistoryRow.key]

theorem exists_addRow? (holds : s.Holds rows) {row : HistoryRow α}
    (new : row.key ∉ rows.map HistoryRow.key) :
    ∃ series, addRow? row s.series = some series ∧ Holds ⟨series⟩ (rows ++ [row]) := by
  obtain ⟨series, added⟩ := Option.ne_none_iff_exists'.mp (mt holds.addRow?_eq_none_iff.mp new)
  refine ⟨series, added, holds.sound.addRow? added, fun id => ?_⟩
  rw [HistoryRow.listed_append]
  exact (perm_held_addRow? added id).trans ((holds.held id).append_right _)

theorem exists_addRows (holds : s.Holds rows) (more : List (HistoryRow α))
    (distinct : ((rows ++ more).map HistoryRow.key).Nodup) :
    ∃ t : HistoryStore α, t.Holds (rows ++ more) ∧
      ∀ rest, s.addRows (more ++ rest) = t.addRows rest := by
  induction more generalizing s rows with
  | nil =>
      rw [List.append_nil]
      exact ⟨s, holds, fun rest => rfl⟩
  | cons row more ih =>
      have new : row.key ∉ rows.map HistoryRow.key := by
        rw [List.map_append, List.nodup_append'] at distinct
        exact fun member => distinct.2.2 member (List.mem_map_of_mem List.mem_cons_self)
      obtain ⟨series, added, holds'⟩ := holds.exists_addRow? new
      rw [List.append_cons] at distinct ⊢
      obtain ⟨t, told, rests⟩ := ih holds' distinct
      refine ⟨t, told, fun rest => ?_⟩
      rw [List.cons_append, addRows, added]
      exact rests rest

/-- A series stands under its name exactly if rows list it, and then it has the samples listed. -/
theorem lookup_eq_some_iff (holds : s.Holds rows) {x : DateSeries α} :
    s.series.lookup id = some x ↔
      HistoryRow.listed rows id ≠ [] ∧ x.samples.Perm (HistoryRow.listed rows id) := by
  have listed := holds.held id
  unfold HistoryStore.held at listed
  cases found : s.series.lookup id with
  | none =>
      rw [found, Option.map_none, Option.getD_none, List.nil_perm] at listed
      simp [listed]
  | some y =>
      rw [found, Option.map_some, Option.getD_some] at listed
      obtain ⟨before, after, split, -⟩ := List.lookup_eq_some_iff.mp found
      have nonempty : y.samples ≠ [] := holds.sound.nonempty (id, y) (by simp [split])
      constructor
      · intro same
        cases same
        refine ⟨?_, listed⟩
        rintro empty
        rw [empty, List.perm_nil] at listed
        exact nonempty listed
      · rintro ⟨-, listed'⟩
        have same : y = x := DateSeries.ext_mem fun a => (listed.trans listed'.symm).mem_iff
        rw [same]

theorem lookup_eq_none_iff (holds : s.Holds rows) :
    s.series.lookup id = none ↔ HistoryRow.listed rows id = [] := by
  constructor
  · intro missing
    have listed := holds.held id
    rw [HistoryStore.held, missing] at listed
    exact listed.symm.eq_nil
  · intro unlisted
    rw [Option.eq_none_iff_forall_ne_some]
    intro x found
    exact (holds.lookup_eq_some_iff.mp found).1 unlisted

theorem exists_ofSamples (holds : s.Holds rows) (id : String) :
    ∃ x, DateSeries.ofSamples (byDate (HistoryRow.listed rows id)) = .ok x := by
  cases found : s.series.lookup id with
  | none =>
      rw [holds.lookup_eq_none_iff.mp found, DateSeries.byDate_eq (s := .empty) (.refl [])]
      exact ⟨.empty, DateSeries.ofSamples_samples .empty⟩
  | some x =>
      obtain ⟨-, listed⟩ := holds.lookup_eq_some_iff.mp found
      rw [DateSeries.byDate_eq listed.symm]
      exact ⟨x, DateSeries.ofSamples_samples x⟩

theorem map_samples_history (holds : s.Holds rows) (id : String) (window : DateWindow) :
    (s.history id window).map (·.samples) = HistoryRow.told rows id window := by
  unfold history HistoryRow.told
  cases found : s.series.lookup id with
  | none =>
      have unlisted := HistoryRow.listed_eq_nil_iff.mp (holds.lookup_eq_none_iff.mp found)
      rw [unlisted]
      rfl
  | some x =>
      obtain ⟨named, listed⟩ := holds.lookup_eq_some_iff.mp found
      have named := eq_true_of_ne_false (mt HistoryRow.listed_eq_nil_iff.mpr named)
      rw [named, if_pos rfl, DateSeries.byDate_eq listed.symm]
      simp only [Except.map, DateSeries.samples_between, DateWindow.contains]

theorem of_perm (holds : s.Holds rows) (perm : rows.Perm rows') : s.Holds rows' :=
  ⟨holds.sound, fun id => (holds.held id).trans ((perm.filter _).map _)⟩

theorem alike (holds : s.Holds rows) (holds' : t.Holds rows) : s.Alike t := by
  have found (id : String) : s.series.lookup id = t.series.lookup id :=
    Option.ext fun x => by rw [holds.lookup_eq_some_iff, holds'.lookup_eq_some_iff]
  have answers (id : String) (window : DateWindow) : s.history id window = t.history id window := by
    rw [history, history, found]
  have mem_names (u : HistoryStore α) (id : String) :
      id ∈ u.series.map (·.1) ↔ (u.series.lookup id).isSome := by
    rw [List.mem_map, List.lookup_isSome_iff]
    exact exists_congr fun x => and_congr_right fun _ => by rw [beq_iff_eq, eq_comm]
  have names : (s.series.map (·.1)).Perm (t.series.map (·.1)) :=
    (List.perm_ext_iff_of_nodup holds.sound.distinct holds'.sound.distinct).mpr fun id => by
      rw [mem_names, mem_names, found]
  exact ⟨fun node => answers node.key, fun pair => answers pair.code,
    by simpa [size] using names.length_eq⟩

end Holds

variable {rows : List (HistoryRow α)}

theorem exists_loaded (distinct : (rows.map HistoryRow.key).Nodup) :
    ∃ s : HistoryStore α, DataSet.reloaded (empty.reload (some ⟨rows, none⟩)) = .ok s ∧
      s.Holds rows := by
  obtain ⟨s, holds, added⟩ := Holds.of_no_rows.exists_addRows rows distinct
  have loaded : empty.addRows rows = .ok s := by
    have ended := added []
    rwa [List.append_nil] at ended
  refine ⟨s, ?_, holds⟩
  simp only [reload, ofRecords, loaded, DataSet.reloaded]

/-- The first row whose key is not new ends the loading. -/
theorem reloaded_of_repeated {before after : List (HistoryRow α)} {row : HistoryRow α}
    (distinct : (before.map HistoryRow.key).Nodup)
    (repeated : row.key ∈ before.map HistoryRow.key) :
    DataSet.reloaded ((empty : HistoryStore α).reload (some ⟨before ++ row :: after, none⟩)) =
      .error (.failed (sampledTwice row)) := by
  obtain ⟨s, holds, added⟩ := Holds.of_no_rows.exists_addRows before distinct
  have refused : (empty : HistoryStore α).addRows (before ++ row :: after) =
      .error (sampledTwice row) := by
    rw [added, addRows, holds.addRow?_eq_none_iff.mpr repeated]
  simp only [reload, ofRecords, refused, DataSet.reloaded]

/-- Rows that sample a series twice on a date are refused with the first row that does so. All
other rows make a store that tells of each series what its rows tell, and the same store, as far as
can be asked, in whatever order the rows come. -/
theorem loaded_rows_are_told (rows : List (HistoryRow α)) :
    (¬ (rows.map HistoryRow.key).Nodup → ∃ before row after, rows = before ++ row :: after ∧
        (before.map HistoryRow.key).Nodup ∧ row.key ∈ before.map HistoryRow.key ∧
        DataSet.reloaded (empty.reload (some ⟨rows, none⟩)) =
          .error (.failed ⟨.unreadable, row.id ++ " sampled twice on " ++ row.date.text⟩)) ∧
      ((rows.map HistoryRow.key).Nodup → ∃ s : HistoryStore α,
        DataSet.reloaded (empty.reload (some ⟨rows, none⟩)) = .ok s ∧
          (∀ node window, (s.nodeHistory node window).map (·.samples) =
            HistoryRow.told rows node.key window) ∧
          (∀ pair window, (s.fxHistory pair window).map (·.samples) =
            HistoryRow.told rows pair.code window) ∧
          (∀ id, ∃ x, DateSeries.ofSamples (byDate (HistoryRow.listed rows id)) = .ok x) ∧
          ∀ rows', rows.Perm rows' → ∃ t : HistoryStore α,
            DataSet.reloaded (empty.reload (some ⟨rows', none⟩)) = .ok t ∧ s.Alike t) := by
  refine ⟨?refused, ?loaded⟩
  case refused =>
    intro repeated
    obtain ⟨before, row, after, rfl, distinct, again⟩ := exists_first_repeated repeated
    exact ⟨before, row, after, rfl, distinct, again, reloaded_of_repeated distinct again⟩
  case loaded =>
    intro distinct
    obtain ⟨s, loaded, holds⟩ := exists_loaded distinct
    refine ⟨s, loaded, fun node => holds.map_samples_history node.key,
      fun pair => holds.map_samples_history pair.code, holds.exists_ofSamples, ?_⟩
    intro rows' perm
    obtain ⟨t, loaded', holds'⟩ := exists_loaded ((perm.map _).nodup_iff.mp distinct)
    exact ⟨t, loaded', holds.alike (holds'.of_perm perm.symm)⟩

/-- Samples of two series, in no order of dates. -/
def mixedRows : List (HistoryRow Float) :=
  [⟨"USD3M", .monday, 1.5⟩, ⟨"EURUSD", .monday, 1.1⟩, ⟨"USD3M", .friday, 1.0⟩]

/-- The samples again, and one of them on the same date anew. -/
def repeatedRows : List (HistoryRow Float) := mixedRows ++ [⟨"EURUSD", .monday, 1.2⟩]

theorem loaded_mixedRows :
    (mixedRows.map HistoryRow.key).Nodup ∧ mixedRows.Perm mixedRows.reverse ∧
      ¬ (repeatedRows.map HistoryRow.key).Nodup ∧
      (∃ s t : HistoryStore Float,
        DataSet.reloaded (empty.reload (some ⟨mixedRows, none⟩)) = .ok s ∧
        DataSet.reloaded (empty.reload (some ⟨mixedRows.reverse, none⟩)) = .ok t ∧ s.Alike t ∧
        (s.nodeHistory ⟨"USD3M", ⟨.months, 3⟩, none⟩ Sources.weekToMonday).map (·.samples) =
          .ok [(.friday, 1.0), (.monday, 1.5)]) ∧
      DataSet.reloaded ((empty : HistoryStore Float).reload (some ⟨repeatedRows, none⟩)) =
        .error (.failed ⟨.unreadable, "EURUSD sampled twice on " ++ Date.monday.text⟩) := by
  have distinct : (mixedRows.map HistoryRow.key).Nodup := by decide
  have shuffled : mixedRows.Perm mixedRows.reverse := (List.reverse_perm _).symm
  have repeated : ¬ (repeatedRows.map HistoryRow.key).Nodup := by decide
  obtain ⟨s, loaded, nodes, -, -, perms⟩ := (loaded_rows_are_told mixedRows).2 distinct
  obtain ⟨t, loaded', same⟩ := perms _ shuffled
  obtain ⟨before, row, after, split, -, again, refused⟩ :=
    (loaded_rows_are_told repeatedRows).1 repeated
  refine ⟨distinct, shuffled, repeated, ⟨s, t, loaded, loaded', same, ?_⟩, ?_⟩
  · have sorted : byDate (HistoryRow.listed mixedRows "USD3M") =
        [(.friday, 1.0), (.monday, 1.5)] :=
      DateSeries.byDate_eq (s := ⟨[(.friday, 1.0), (.monday, 1.5)], by decide⟩) (.swap _ _ _)
    rw [nodes, HistoryRow.told, sorted]
    rfl
  · rw [refused]
    rcases before with _ | ⟨_, _ | ⟨_, _ | ⟨_, _ | ⟨_, before⟩⟩⟩⟩
    · cases again
    · cases split
      exact absurd again (by decide)
    · cases split
      exact absurd again (by decide)
    · cases split
      rfl
    · simp [repeatedRows, mixedRows] at split

end HistoryStore

end CurvePnl
