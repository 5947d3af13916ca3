import CurvePnl.Proofs.Arena
import CurvePnl.Proofs.TenorOrder
import CurvePnl.Proofs.Work

/-! # Sequences of additions

Which samples go into a collection can be told without one: an addition is accepted unless one of
its key that was accepted before it is not dated earlier. A collection holds the accepted samples
and nothing else, each key in the order in which they came, however the keys are interleaved.
-/

namespace CurvePnl

variable {κ α : Type} [BEq κ]

namespace Addition

/-- The addition is dated later than all that were accepted for its key. -/
def Follows (a : Addition κ α) (taken : List (Addition κ α)) : Prop :=
  ∀ b ∈ taken, (b.key == a.key) = true → b.date < a.date

instance (a : Addition κ α) (taken : List (Addition κ α)) : Decidable (a.Follows taken) :=
  inferInstanceAs (Decidable (∀ b ∈ taken, (b.key == a.key) = true → b.date < a.date))

/-- The accepted additions, in order. -/
def accepted (calls : List (Addition κ α)) : List (Addition κ α) :=
  calls.foldl (fun taken a => if a.Follows taken then taken ++ [a] else taken) []

/-- The samples of the additions with a key, in order. -/
def samplesFor (key : κ) (l : List (Addition κ α)) : List (Sample α) :=
  (l.filter (·.key == key)).map sample

theorem samplesFor_concat (key : κ) (l : List (Addition κ α)) (a : Addition κ α) :
    samplesFor key (l ++ [a]) =
      samplesFor key l ++ if (a.key == key) = true then [a.sample] else [] := by
  simp only [samplesFor, List.filter_append, List.map_append]
  cases same : a.key == key <;> simp [same]

theorem follows_iff {a : Addition κ α} {taken : List (Addition κ α)} :
    a.Follows taken ↔ ∀ b ∈ samplesFor a.key taken, b.1 < a.date := by
  simp only [Follows, samplesFor, List.mem_map, List.mem_filter, and_imp, forall_exists_index]
  constructor
  · rintro follows _ b member same rfl
    exact follows b member same
  · intro later b member same
    exact later _ b member same rfl

end Addition

open Addition

namespace BucketCollection

variable [Hashable κ]

/-- The collection that a sequence of additions leaves. -/
def ofAdditions (calls : List (Addition κ α)) : BucketCollection κ α :=
  calls.foldl (fun c a => (c.add a.date a.key a.value).2) .empty

/-- The last sample held for the key of the addition is dated `last`, and the addition is not dated
later. -/
def EndsLate (c : BucketCollection κ α) (a : Addition κ α) (last : Date) : Prop :=
  ∃ s, c.get? a.key = some s ∧ s.lastDate? = some last ∧ a.date ≤ last

/-- The collection holds the samples of the given additions and nothing else. -/
structure Gathers (c : BucketCollection κ α) (taken : List (Addition κ α)) : Prop where
  indexed : c.Indexed
  held : ∀ key, c.held key = samplesFor key taken
  all : (c.buckets.toList.flatMap (·.2.samples)).Perm (taken.map sample)

variable {c : BucketCollection κ α} {taken : List (Addition κ α)}

theorem gathers_empty : (empty : BucketCollection κ α).Gathers [] :=
  ⟨indexed_empty, fun key => by simp [samplesFor], by simp [empty]⟩

namespace Gathers

/-- An addition is accepted by the collection exactly if it follows those accepted before. -/
theorem add [EquivBEq κ] [LawfulHashable κ] (gathers : c.Gathers taken) (a : Addition κ α) :
    (c.add a.date a.key a.value).2.Gathers (if a.Follows taken then taken ++ [a] else taken) := by
  have follows_iff : a.Follows taken ↔ ∀ b ∈ c.held a.key, b.1 < a.date := by
    rw [gathers.held, Addition.follows_iff]
  rcases gathers.indexed.add_cases a with
    ⟨c', added, extended, later⟩ | ⟨s, last, found, ends, stale, refused⟩
  · rw [added, if_pos (follows_iff.mpr later)]
    constructor
    · exact gathers.indexed.of_extends extended
    · intro key
      rw [gathers.indexed.held_of_extends extended, gathers.held, samplesFor_concat]
    · rw [List.map_append]
      exact extended.perm_samples.trans (gathers.all.append_right _)
  · have kept : ¬ a.Follows taken := by
      obtain ⟨b, final, rfl⟩ := Option.map_eq_some_iff.mp ends
      rw [follows_iff]
      intro later
      have member : b ∈ c.held a.key := by
        simpa [BucketCollection.held, found] using List.mem_of_getLast? final
      exact absurd stale (Int.not_le.mpr (later b member))
    rw [refused, if_neg kept]
    exact gathers

theorem ofAdditions [EquivBEq κ] [LawfulHashable κ] (calls : List (Addition κ α)) :
    (ofAdditions calls).Gathers (accepted calls) := by
  have step (calls : List (Addition κ α)) : ∀ {c : BucketCollection κ α} {taken},
      c.Gathers taken → (calls.foldl (fun c a => (c.add a.date a.key a.value).2) c).Gathers
        (calls.foldl (fun taken a => if a.Follows taken then taken ++ [a] else taken) taken) := by
    induction calls with
    | nil => exact fun gathers => gathers
    | cons a calls ih => exact fun gathers => ih (gathers.add a)
  exact step calls gathers_empty

end Gathers

/-- Whatever was added before, an addition either goes to the end of the bucket of its key, which is
created if need be, or is refused by a last sample that is not dated earlier, and then changes
nothing. The index always names the one place of each key, and the collection holds for each key the
accepted samples in order; sorted, it has the same series with ascending keys. -/
theorem additions_keep_what_is_accepted [LawfulHashable κ] [Ord κ] [Std.TransOrd κ]
    [Std.LawfulBEqOrd κ] (calls : List (Addition κ α)) :
    let c := ofAdditions calls
    (∀ (a : Addition κ α) last, c.EndsLate a last ↔
        c.add a.date a.key a.value = (.error (.unorderedSeries last a.date), c)) ∧
      (∀ a : Addition κ α, (¬ ∃ last, c.EndsLate a last) →
        ∃ c', c.add a.date a.key a.value = (.ok (), c') ∧ c.Extends a c') ∧
      c.Indexed ∧
      (c.buckets.toList.Pairwise fun b b' => (b.1 == b'.1) = false) ∧
      (∀ b ∈ c.buckets, b.2.dates.Pairwise (· < ·)) ∧
      (∀ key s, c.get? key = some s ↔
        s.samples ≠ [] ∧ samplesFor key (accepted calls) = s.samples) ∧
      (∀ key, c.get? key = none ↔ samplesFor key (accepted calls) = []) ∧
      (c.sortedSeries.mapM fun b => (DateSeries.new b.2.dates b.2.values).map (b.1, ·)) =
        .ok c.sortedSeries ∧
      c.sortedSeries.map (·.1) = c.sortedKeys ∧
      c.sortedKeys.Perm (c.buckets.toList.map (·.1)) ∧
      (c.sortedKeys.Pairwise fun k k' => compare k k' = .lt) ∧
      (∀ b ∈ c.sortedSeries, b.2.samples = samplesFor b.1 (accepted calls)) ∧
      (c.sortedSeries.flatMap (·.2.samples)).Perm ((accepted calls).map sample) := by
  intro c
  obtain ⟨indexed, held, all⟩ : c.Gathers (accepted calls) := .ofAdditions calls
  refine ⟨?_, ?_, indexed, indexed.distinct, ?_, ?_, ?_, c.mapM_new_sortedSeries,
    c.map_fst_sortedSeries, List.mergeSort_perm _ _, indexed.pairwise_sortedKeys, ?_, ?_⟩
  · intro a last
    constructor
    · rintro ⟨s, found, ends, stale⟩
      exact indexed.add_of_stale found ends stale
    · intro refused
      rcases indexed.add_cases a with ⟨c', added, -, -⟩ | ⟨s, last', found, ends, stale, refused'⟩
      · rw [refused] at added
        cases added
      · rw [refused] at refused'
        cases refused'
        exact ⟨s, found, ends, stale⟩
  · intro a timely
    rcases indexed.add_cases a with ⟨c', added, extended, -⟩ | ⟨s, last, found, ends, stale, -⟩
    · exact ⟨c', added, extended⟩
    · exact absurd ⟨last, s, found, ends, stale⟩ timely
  · intro b _
    exact List.pairwise_map.mpr b.2.increasing
  · intro key s
    rw [indexed.held_eq_iff, held]
  · intro key
    rw [← indexed.held_eq_nil_iff, held]
  · intro b member
    rw [← held]
    have inArena := Array.mem_toList_iff.mp (c.perm_sortedSeries.mem_iff.mp member)
    exact (indexed.held_of_mem inArena).symm
  · exact (c.perm_sortedSeries.flatMap_right _).trans all

/-- Two tenors by turns. The third addition repeats the date of the first, and is refused. -/
def twoTenors : List (Addition Tenor Nat) :=
  [⟨.friday, ⟨.years, 1⟩, 10⟩, ⟨.friday, ⟨.months, 3⟩, 20⟩, ⟨.friday, ⟨.years, 1⟩, 30⟩,
    ⟨.monday, ⟨.months, 3⟩, 40⟩]

theorem additions_twoTenors :
    (ofAdditions twoTenors).get? ⟨.years, 1⟩ = some ⟨[(.friday, 10)], by decide⟩ ∧
      (ofAdditions twoTenors).get? ⟨.months, 3⟩ =
        some ⟨[(.friday, 20), (.monday, 40)], by decide⟩ ∧
      (ofAdditions twoTenors).add .friday ⟨.months, 3⟩ 50 =
        (.error (.unorderedSeries .monday .friday), ofAdditions twoTenors) := by
  obtain ⟨refused, -, -, -, -, held, -⟩ := additions_keep_what_is_accepted twoTenors
  have year := (held ⟨.years, 1⟩ ⟨[(.friday, 10)], by decide⟩).mpr (by decide)
  have quarter := (held ⟨.months, 3⟩ ⟨[(.friday, 20), (.monday, 40)], by decide⟩).mpr (by decide)
  exact ⟨year, quarter,
    (refused ⟨.friday, ⟨.months, 3⟩, 50⟩ .monday).mp ⟨_, quarter, rfl, by decide⟩⟩

end BucketCollection

end CurvePnl
