import CurvePnl.Proofs.Arena

/-! # What buckets hold

In a sound collection the index names exactly the place of each key, and no bucket is empty. What
matters of such a collection is what it holds for each key; adding a later sample appends it to
what its key holds and leaves all other keys alone.
-/

namespace CurvePnl.BucketCollection

variable {κ α : Type} [BEq κ] [Hashable κ]

/-- The index names the one place of each key, and every bucket has a sample. -/
structure Sound (c : BucketCollection κ α) : Prop where
  index_iff : ∀ key (i : Nat), c.index[key]? = some i ↔ c.buckets[i]?.map (·.1) = some key
  nonempty : ∀ b ∈ c.buckets, b.2.samples ≠ []

theorem sound_empty : (empty : BucketCollection κ α).Sound :=
  ⟨by simp [empty], by simp [empty]⟩

variable [LawfulBEq κ]

/-- Where only equal keys are alike, a key shares its bucket with no other. -/
theorem sound_iff_indexed {c : BucketCollection κ α} : c.Sound ↔ c.Indexed := by
  have same (key : κ) (i : Nat) : c.buckets[i]?.map (·.1) = some key ↔
      ∃ b, c.buckets[i]? = some b ∧ (b.1 == key) = true := by
    simp only [Option.map_eq_some_iff, beq_iff_eq]
  constructor
  · rintro ⟨index_iff, nonempty⟩
    exact ⟨fun key i => (index_iff key i).trans (same key i), nonempty⟩
  · rintro ⟨index_iff, nonempty⟩
    exact ⟨fun key i => (index_iff key i).trans (same key i).symm, nonempty⟩

namespace Sound

variable {c : BucketCollection κ α}

theorem get?_eq_some_iff (sound : c.Sound) {key : κ} {s : DateSeries α} :
    c.get? key = some s ↔ (key, s) ∈ c.buckets := by
  simp [(sound_iff_indexed.mp sound).get?_eq_some_iff]

theorem held_eq_iff (sound : c.Sound) {key : κ} {s : DateSeries α} :
    c.get? key = some s ↔ s.samples ≠ [] ∧ c.held key = s.samples :=
  (sound_iff_indexed.mp sound).held_eq_iff

theorem nodup_keys (sound : c.Sound) : (c.buckets.toList.map (·.1)).Nodup := by
  have distinct := (sound_iff_indexed.mp sound).distinct
  rw [List.nodup_iff_pairwise_ne, List.pairwise_map]
  exact distinct.imp fun different same => by simp [same] at different

theorem exists_add (sound : c.Sound) {d : Date} {key : κ} (v : α)
    (later : ∀ a ∈ c.held key, a.1 < d) :
    ∃ c', c.add d key v = (.ok (), c') ∧ c'.Sound ∧ c'.held key = c.held key ++ [(d, v)] ∧
      ∀ k, k ≠ key → c'.held k = c.held k := by
  have indexed := sound_iff_indexed.mp sound
  obtain ⟨c', added, extended⟩ := indexed.exists_extends (a := ⟨d, key, v⟩) later
  refine ⟨c', added, sound_iff_indexed.mpr (indexed.of_extends extended), ?_, ?_⟩
  · rw [indexed.held_of_extends extended, if_pos BEq.rfl]
    rfl
  · intro k other
    rw [indexed.held_of_extends extended, if_neg (by simpa using Ne.symm other), List.append_nil]

end Sound

variable [Ord κ] {c : BucketCollection κ α}

theorem mem_sortedSeries (sound : c.Sound) {key : κ} {s : DateSeries α} :
    (key, s) ∈ c.sortedSeries ↔ c.get? key = some s := by
  rw [c.perm_sortedSeries.mem_iff, Array.mem_toList_iff, sound.get?_eq_some_iff]

theorem pairwise_sortedSeries [Std.TransOrd κ] [Std.LawfulEqOrd κ] (sound : c.Sound) :
    (c.sortedSeries.map (·.1)).Pairwise fun a b => compare a b = .lt := by
  rw [map_fst_sortedSeries]
  exact (sound_iff_indexed.mp sound).pairwise_sortedKeys

end CurvePnl.BucketCollection
