import CurvePnl.Bucket
import CurvePnl.Proofs.Series

/-! # The arena of buckets and its index

Keys are told apart by `==` alone, so keys that differ may still share a bucket; it keeps the key
that came first. The index names the one place of every key. A sample that is later than its bucket
is put at the end of it, or into a new bucket at the end of the arena; any other sample is turned
away and changes nothing.
-/

namespace CurvePnl

/-- A sample on its way into a collection. -/
structure Addition (κ α : Type) where
  date : Date
  key : κ
  value : α

def Addition.sample {κ α : Type} (a : Addition κ α) : Sample α := (a.date, a.value)

namespace BucketCollection

variable {κ α : Type} [BEq κ] [Hashable κ]

/-- The samples held for a key; none for a key that was never seen. -/
def held (c : BucketCollection κ α) (key : κ) : List (Sample α) :=
  match c.get? key with
  | some s => s.samples
  | none => []

@[simp] theorem held_empty (key : κ) : (empty : BucketCollection κ α).held key = [] := by
  simp [held, get?, empty]

/-- The index names the one place of each key, and every bucket has a sample. -/
structure Indexed (c : BucketCollection κ α) : Prop where
  index_iff : ∀ key (i : Nat),
    c.index[key]? = some i ↔ ∃ b, c.buckets[i]? = some b ∧ (b.1 == key) = true
  nonempty : ∀ b ∈ c.buckets, b.2.samples ≠ []

/-- The collection has one more sample: at the end of the bucket of its key, or alone in a bucket
at the end of the arena if the key is new. All else is as it was. -/
inductive Extends (c : BucketCollection κ α) (a : Addition κ α) : BucketCollection κ α → Prop where
  | known {i : Nat} {key : κ} {s t : DateSeries α} (here : c.buckets[i]? = some (key, s))
      (same : (key == a.key) = true) (samples : t.samples = s.samples ++ [a.sample]) :
      Extends c a ⟨c.buckets.set! i (key, t), c.index⟩
  | new {t : DateSeries α} (absent : ∀ b ∈ c.buckets, (b.1 == a.key) = false)
      (samples : t.samples = [a.sample]) :
      Extends c a ⟨c.buckets.push (a.key, t), c.index.insert a.key c.buckets.size⟩

theorem indexed_empty : (empty : BucketCollection κ α).Indexed :=
  ⟨by simp [empty], by simp [empty]⟩

variable {c c' : BucketCollection κ α}

namespace Indexed

theorem get?_eq_some_iff (indexed : c.Indexed) {key : κ} {s : DateSeries α} :
    c.get? key = some s ↔ ∃ k, (k == key) = true ∧ (k, s) ∈ c.buckets := by
  simp only [get?, Option.bind_eq_bind, Option.bind_eq_some_iff, Array.mem_iff_getElem?,
    indexed.index_iff]
  constructor
  · rintro ⟨i, ⟨b, here, same⟩, ⟨k, t⟩, found, ⟨⟩⟩
    rw [found] at here
    cases here
    exact ⟨k, same, i, found⟩
  · rintro ⟨k, same, i, found⟩
    exact ⟨i, ⟨_, found, same⟩, _, found, rfl⟩

theorem index_eq_none_iff (indexed : c.Indexed) {key : κ} :
    c.index[key]? = none ↔ ∀ b ∈ c.buckets, (b.1 == key) = false := by
  rw [Option.eq_none_iff_forall_ne_some]
  simp only [ne_eq, indexed.index_iff, not_exists, not_and, Bool.not_eq_true,
    Array.mem_iff_getElem?]
  constructor
  · rintro absent b ⟨i, here⟩
    exact absent i b here
  · intro absent i b here
    exact absent b ⟨i, here⟩

theorem held_eq_nil_iff (indexed : c.Indexed) {key : κ} :
    c.held key = [] ↔ c.get? key = none := by
  unfold held
  cases found : c.get? key with
  | none => simp
  | some s =>
      obtain ⟨k, -, member⟩ := indexed.get?_eq_some_iff.mp found
      simp [indexed.nonempty _ member]

theorem held_eq_iff (indexed : c.Indexed) {key : κ} {s : DateSeries α} :
    c.get? key = some s ↔ s.samples ≠ [] ∧ c.held key = s.samples := by
  constructor
  · intro found
    obtain ⟨k, -, member⟩ := indexed.get?_eq_some_iff.mp found
    exact ⟨indexed.nonempty _ member, by simp [held, found]⟩
  · rintro ⟨nonempty, same⟩
    unfold held at same
    split at same
    next t found =>
      rw [found, DateSeries.ext_samples same]
    · exact absurd same.symm nonempty

theorem exists_bucket_or_absent (indexed : c.Indexed) (key : κ) :
    (∃ (i : Nat) (b : κ × DateSeries α), c.index[key]? = some i ∧ c.buckets[i]? = some b ∧
        (b.1 == key) = true ∧ c.get? key = some b.2) ∨
      c.index[key]? = none ∧ ∀ b ∈ c.buckets, (b.1 == key) = false := by
  cases place : c.index[key]? with
  | none => exact .inr ⟨rfl, indexed.index_eq_none_iff.mp place⟩
  | some i =>
      obtain ⟨b, here, same⟩ := (indexed.index_iff key i).mp place
      exact .inl ⟨i, b, rfl, here, same, by simp [get?, place, here]⟩

theorem exists_extends (indexed : c.Indexed) {a : Addition κ α}
    (later : ∀ b ∈ c.held a.key, b.1 < a.date) :
    ∃ c', c.add a.date a.key a.value = (.ok (), c') ∧ c.Extends a c' := by
  rcases indexed.exists_bucket_or_absent a.key with
    ⟨i, ⟨k, s⟩, place, here, same, found⟩ | ⟨place, absent⟩
  · simp only [held, found] at later
    obtain ⟨t, pushed⟩ := DateSeries.exists_push a.value later
    refine ⟨_, ?_, .known here same (DateSeries.samples_push pushed)⟩
    simp only [add, locate, place, here, pushed]
  · obtain ⟨t, pushed⟩ : ∃ t, (DateSeries.empty : DateSeries α).push a.date a.value = .ok t :=
      DateSeries.exists_push a.value (by simp [DateSeries.empty])
    refine ⟨_, ?_, .new absent (DateSeries.samples_push pushed)⟩
    simp [add, locate, place, pushed, Array.setIfInBounds, Array.set_push]

/-- A sample that is not later than the last one of its key is turned away. No bucket comes of it,
since only a key with samples can turn one away. -/
theorem add_of_stale (indexed : c.Indexed) {a : Addition κ α} {s : DateSeries α} {last : Date}
    (found : c.get? a.key = some s) (ends : s.lastDate? = some last) (stale : a.date ≤ last) :
    c.add a.date a.key a.value = (.error (.unorderedSeries last a.date), c) := by
  rcases indexed.exists_bucket_or_absent a.key with
    ⟨i, ⟨k, t⟩, place, here, -, found'⟩ | ⟨place, -⟩
  · rw [found] at found'
    cases found'
    simp only [add, locate, place, here, DateSeries.push_of_stale ends stale]
  · simp [get?, place] at found

theorem add_cases (indexed : c.Indexed) (a : Addition κ α) :
    (∃ c', c.add a.date a.key a.value = (.ok (), c') ∧ c.Extends a c' ∧
        ∀ b ∈ c.held a.key, b.1 < a.date) ∨
      ∃ s last, c.get? a.key = some s ∧ s.lastDate? = some last ∧ a.date ≤ last ∧
        c.add a.date a.key a.value = (.error (.unorderedSeries last a.date), c) := by
  by_cases later : ∀ b ∈ c.held a.key, b.1 < a.date
  · obtain ⟨c', added, extended⟩ := indexed.exists_extends later
    exact .inl ⟨c', added, extended, later⟩
  · right
    push Not at later
    obtain ⟨b, member, late⟩ := later
    cases found : c.get? a.key with
    | none => simp [held, found] at member
    | some s =>
        simp only [held, found] at member
        obtain ⟨last, ends, after⟩ := DateSeries.exists_lastDate member
        have stale : a.date ≤ last := Int.le_trans (Int.not_lt.mp late) after
        exact ⟨s, last, rfl, ends, stale, indexed.add_of_stale found ends stale⟩

variable [EquivBEq κ]

theorem distinct (indexed : c.Indexed) :
    c.buckets.toList.Pairwise fun a b => (a.1 == b.1) = false := by
  rw [List.pairwise_iff_getElem]
  intro i k hi hk before
  rw [Bool.eq_false_iff]
  intro same
  have first := (indexed.index_iff c.buckets.toList[k].1 i).mpr
    ⟨_, by simp, same⟩
  have second := (indexed.index_iff c.buckets.toList[k].1 k).mpr
    ⟨_, by simp, BEq.rfl⟩
  rw [first] at second
  cases second
  exact Nat.lt_irrefl _ before

variable [LawfulHashable κ]

theorem of_extends (indexed : c.Indexed) {a : Addition κ α} (extended : c.Extends a c') :
    c'.Indexed := by
  cases extended with
  | @known i key s t here same samples =>
      obtain ⟨bound, at_i⟩ := Array.getElem?_eq_some_iff.mp here
      constructor
      · intro k n
        -- The bucket keeps its key and its place, so the index needs no change.
        rw [indexed.index_iff, Array.set!_eq_setIfInBounds, Array.getElem?_setIfInBounds]
        by_cases place : i = n
        · subst place
          simp [bound, at_i]
        · simp [place]
      · intro b member
        rw [Array.set!_eq_setIfInBounds] at member
        rcases Array.mem_or_eq_of_mem_setIfInBounds member with member | rfl
        · exact indexed.nonempty b member
        · simp [samples]
  | @new t absent samples =>
      constructor
      · intro k n
        rw [Std.HashMap.getElem?_insert, Array.getElem?_push]
        by_cases last : n = c.buckets.size
        · subst last
          have nowhere : c.index[k]? ≠ some c.buckets.size := by
            rw [ne_eq, indexed.index_iff]
            simp
          by_cases same : a.key == k
          · simp [same]
          · simp [same, nowhere]
        · by_cases same : a.key == k
          · have gone : ¬ ∃ b, c.buckets[n]? = some b ∧ (b.1 == k) = true := by
              rintro ⟨b, here, found⟩
              have other := absent b (Array.mem_iff_getElem?.mpr ⟨n, here⟩)
              rw [BEq.congr_right same, found] at other
              cases other
            simp [same, last, gone, Ne.symm last]
          · simp [same, last, indexed.index_iff]
      · intro b member
        rcases Array.mem_push.mp member with member | rfl
        · exact indexed.nonempty b member
        · simp [samples]

/-- One more sample is appended to what its key holds, and no other key holds anything new. -/
theorem held_of_extends (indexed : c.Indexed) {a : Addition κ α} (extended : c.Extends a c')
    (key : κ) :
    c'.held key = c.held key ++ if (a.key == key) = true then [a.sample] else [] := by
  cases extended with
  | @known i k s t here same samples =>
      obtain ⟨bound, at_i⟩ := Array.getElem?_eq_some_iff.mp here
      have place_iff : c.index[key]? = some i ↔ (a.key == key) = true := by
        rw [indexed.index_iff, here]
        simp [BEq.congr_left same]
      cases place : c.index[key]? with
      | none =>
          rw [place] at place_iff
          have other : ¬ (a.key == key) = true := by simp [← place_iff]
          simp [held, get?, place, other]
      | some n =>
          rw [place, Option.some.injEq] at place_iff
          by_cases this_one : n = i
          · subst this_one
            simp [held, get?, place, bound, at_i, samples, place_iff.mp rfl]
          · have other : ¬ (a.key == key) = true := mt place_iff.mpr this_one
            simp [held, get?, place, Ne.symm this_one, other]
  | @new t absent samples =>
      have place' : (c.index.insert a.key c.buckets.size)[key]? =
          if (a.key == key) = true then some c.buckets.size else c.index[key]? :=
        Std.HashMap.getElem?_insert
      cases same : a.key == key with
      | true =>
          have none_yet : c.index[key]? = none := by
            rw [← Std.HashMap.getElem?_congr same]
            exact indexed.index_eq_none_iff.mpr absent
          rw [if_pos same] at place'
          simp [held, get?, place', none_yet, samples]
      | false =>
          rw [if_neg (by simp [same])] at place'
          cases place : c.index[key]? with
          | none => simp [held, get?, place', place]
          | some n =>
              obtain ⟨b, here, -⟩ := (indexed.index_iff key n).mp place
              obtain ⟨bound, -⟩ := Array.getElem?_eq_some_iff.mp here
              simp [held, get?, place', place, Array.getElem?_push, Nat.ne_of_lt bound]

omit [LawfulHashable κ] in
theorem held_of_mem (indexed : c.Indexed) {b : κ × DateSeries α} (member : b ∈ c.buckets) :
    c.held b.1 = b.2.samples := by
  have found := indexed.get?_eq_some_iff.mpr ⟨b.1, BEq.rfl, member⟩
  simp [held, found]

end Indexed

theorem Extends.perm_samples {a : Addition κ α} (extended : c.Extends a c') :
    (c'.buckets.toList.flatMap (·.2.samples)).Perm
      (c.buckets.toList.flatMap (·.2.samples) ++ [a.sample]) := by
  cases extended with
  | @known i key s t here same samples =>
      obtain ⟨bound, at_i⟩ := List.getElem?_eq_some_iff.mp (Array.getElem?_toList ▸ here)
      have split : c.buckets.toList =
          c.buckets.toList.take i ++ (key, s) :: c.buckets.toList.drop (i + 1) := by
        rw [← at_i, List.getElem_cons_drop, List.take_append_drop]
      conv => rhs; rw [split]
      simp only [Array.set!_eq_setIfInBounds, Array.toList_setIfInBounds,
        List.set_eq_take_append_cons_drop, if_pos bound, List.flatMap_append, List.flatMap_cons,
        samples, List.append_assoc]
      exact ((List.perm_append_comm.append_left _).append_left _)
  | new absent samples => simp [samples]

section Sorting

variable [Ord κ]

theorem perm_sortedSeries (c : BucketCollection κ α) : c.sortedSeries.Perm c.buckets.toList :=
  List.mergeSort_perm _ _

theorem map_fst_sortedSeries (c : BucketCollection κ α) :
    c.sortedSeries.map (·.1) = c.sortedKeys :=
  List.map_mergeSort fun _ _ _ _ => rfl

theorem mapM_new_sortedSeries (c : BucketCollection κ α) :
    (c.sortedSeries.mapM fun b => (DateSeries.new b.2.dates b.2.values).map (b.1, ·)) =
      .ok c.sortedSeries := by
  induction c.sortedSeries with
  | nil => rfl
  | cons b rest ih =>
      rw [List.mapM_cons, ih, DateSeries.new_dates_values]
      rfl

omit [Hashable κ] in
theorem pairwise_mergeSort [Std.TransOrd κ] [Std.LawfulBEqOrd κ] {keys : List κ}
    (distinct : keys.Pairwise fun a b => (a == b) = false) :
    (keys.mergeSort fun a b => (compare a b).isLE).Pairwise fun a b => compare a b = .lt := by
  have trans (a b d : κ) (first : (compare a b).isLE = true) (second : (compare b d).isLE = true) :
      (compare a d).isLE = true :=
    Std.TransCmp.isLE_trans first second
  have total (a b : κ) : ((compare a b).isLE || (compare b a).isLE) = true := by
    rw [Std.OrientedOrd.eq_swap (a := b)]
    cases compare a b <;> rfl
  have sorted := List.pairwise_mergeSort trans total keys
  have shuffled := List.mergeSort_perm keys fun a b => (compare a b).isLE
  rw [← shuffled.pairwise_iff fun same => by rw [BEq.comm, same]] at distinct
  refine List.Pairwise.imp₂ ?_ sorted distinct
  intro a b ordered different
  cases order : compare a b with
  | lt => rfl
  | eq =>
      rw [Std.LawfulBEqCmp.compare_eq_iff_beq, different] at order
      cases order
  | gt => simp [order] at ordered

theorem Indexed.pairwise_sortedKeys [Std.TransOrd κ] [Std.LawfulBEqOrd κ] (indexed : c.Indexed) :
    c.sortedKeys.Pairwise fun a b => compare a b = .lt :=
  pairwise_mergeSort (List.pairwise_map.mpr indexed.distinct)

end Sorting

end BucketCollection

end CurvePnl
