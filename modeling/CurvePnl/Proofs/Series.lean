import CurvePnl.Series.Product
import CurvePnl.Series.Trim
import Mathlib.Data.List.Forall2

/-! # What operations on series yield

Each operation is described by the samples it yields, without the recursion that computes them.
A strict product exists exactly if every date of the first series is sampled in the second.
-/

namespace CurvePnl.DateSeries

variable {α : Type}

theorem ext_samples {s t : DateSeries α} (h : s.samples = t.samples) : s = t := by
  cases s
  cases t
  cases h
  rfl

/-- Series with the same samples are the same, as the dates give the order. -/
theorem ext_mem {s t : DateSeries α} (h : ∀ a, a ∈ s.samples ↔ a ∈ t.samples) : s = t := by
  have nodup (s : DateSeries α) : s.samples.Nodup := by
    refine List.Pairwise.imp ?_ s.increasing
    rintro a _ before rfl
    exact Int.lt_irrefl _ before
  apply ext_samples
  refine List.Perm.eq_of_pairwise ?_ s.increasing t.increasing
    ((List.perm_ext_iff_of_nodup (nodup s) (nodup t)).mpr h)
  intro a b _ _ before after
  exact absurd (Int.lt_trans before after) (Int.lt_irrefl _)

theorem valueOn?_eq_some_iff {s : DateSeries α} {d : Date} {v : α} :
    s.valueOn? d = some v ↔ (d, v) ∈ s.samples := by
  rw [valueOn?, List.lookup_eq_some_iff]
  constructor
  · rintro ⟨before, after, split, -⟩
    simp [split]
  · intro member
    obtain ⟨before, after, split⟩ := List.append_of_mem member
    refine ⟨before, after, split, ?_⟩
    intro a earlier
    have increasing := s.increasing
    rw [split] at increasing
    have order : a.1 < d := (List.pairwise_append.mp increasing).2.2 a earlier _ List.mem_cons_self
    rw [bne_iff_ne]
    rintro rfl
    exact Int.lt_irrefl _ order

theorem mem_values_of_valueOn? {s : DateSeries α} {d : Date} {v : α}
    (h : s.valueOn? d = some v) : v ∈ s.values := by
  obtain ⟨before, after, split, -⟩ := List.lookup_eq_some_iff.mp h
  simp [values, split]

theorem valueOn?_mapValues {β : Type} (s : DateSeries α) (f : α → β) (d : Date) :
    (s.mapValues f).valueOn? d = (s.valueOn? d).map f := by
  simp only [valueOn?, mapValues]
  induction s.samples with
  | nil => rfl
  | cons a rest ih =>
      cases a with
      | mk e v =>
          simp only [List.map_cons, List.lookup_cons, ih]
          cases d == e <;> rfl

@[simp] theorem dates_mapValues {β : Type} (s : DateSeries α) (f : α → β) :
    (s.mapValues f).dates = s.dates := by
  simp [dates, mapValues]

theorem samples_push {s t : DateSeries α} {d : Date} {v : α} (h : s.push d v = .ok t) :
    t.samples = s.samples ++ [(d, v)] := by
  unfold push at h
  split at h
  next none =>
    cases h
    simp [List.getLast?_eq_none_iff.mp none]
  · split at h
    · cases h
      rfl
    · cases h

theorem exists_push {s : DateSeries α} {d : Date} (v : α) (later : ∀ a ∈ s.samples, a.1 < d) :
    ∃ t, s.push d v = .ok t := by
  unfold push
  split
  · exact ⟨_, rfl⟩
  next a last =>
    rw [dif_pos (later a (List.mem_of_getLast? last))]
    exact ⟨_, rfl⟩

theorem push_of_stale {s : DateSeries α} {d last : Date} {v : α} (ends : s.lastDate? = some last)
    (stale : d ≤ last) : s.push d v = .error (.unorderedSeries last d) := by
  obtain ⟨a, final, rfl⟩ := Option.map_eq_some_iff.mp ends
  unfold push
  split
  next none =>
    rw [final] at none
    cases none
  next b final' =>
    rw [final] at final'
    cases final'
    have not_later : ¬ a.1 < d := Int.not_lt.mpr stale
    rw [dif_neg not_later]

theorem exists_lastDate {s : DateSeries α} {a : Sample α} (member : a ∈ s.samples) :
    ∃ last, s.lastDate? = some last ∧ a.1 ≤ last := by
  obtain ⟨before, b, split⟩ := List.eq_nil_or_concat s.samples |>.resolve_left
    (List.ne_nil_of_mem member)
  have increasing := s.increasing
  rw [split, List.concat_eq_append] at increasing member
  refine ⟨b.1, by simp [lastDate?, split], ?_⟩
  rcases List.mem_append.mp member with earlier | final
  · have order := (List.pairwise_append.mp increasing).2.2 a earlier b List.mem_cons_self
    exact Int.le_of_lt order
  · rw [List.mem_singleton.mp final]
    exact Int.le_refl _

theorem firstDescent?_eq_none {l : List (Sample α)} (increasing : l.Pairwise fun a b => a.1 < b.1) :
    firstDescent? l = none := by
  induction l with
  | nil => rfl
  | cons a rest ih =>
      obtain ⟨first, rest_increasing⟩ := List.pairwise_cons.mp increasing
      cases rest with
      | nil => rfl
      | cons b rest =>
          rw [firstDescent?, if_pos (first b List.mem_cons_self)]
          exact ih rest_increasing

theorem ofSamples_samples (s : DateSeries α) : ofSamples s.samples = .ok s := by
  unfold ofSamples
  split
  · rfl
  next previous next descent =>
    rw [firstDescent?_eq_none s.increasing] at descent
    cases descent

theorem new_dates_values (s : DateSeries α) : new s.dates s.values = .ok s := by
  have zipped : s.dates.zip s.values = s.samples := by
    simp [dates, values, List.zip_map']
  rw [new, if_pos (by simp [dates, values]), zipped, ofSamples_samples]

section Products

variable [Quantity α]

/-- `b` is the product of the sample `a` with the value of `other` on its date. -/
def IsSampleProduct (other : DateSeries α) (a b : Sample α) : Prop :=
  b.1 = a.1 ∧ ∃ factor, other.valueOn? a.1 = some factor ∧ b.2 = a.2 * factor

/-- `product` has the dates of `s`; on each, the value of `s` times that of `other`. -/
def IsProduct (s other product : DateSeries α) : Prop :=
  List.Forall₂ (IsSampleProduct other) s.samples product.samples

theorem alignedProducts_eq_ok {other : DateSeries α} (context : String) {l r : List (Sample α)} :
    alignedProducts other context l = .ok r ↔ List.Forall₂ (IsSampleProduct other) l r := by
  induction l generalizing r with
  | nil => cases r <;> simp [alignedProducts]
  | cons a rest ih =>
      simp only [alignedProducts, List.forall₂_cons_left_iff]
      cases sampled : other.valueOn? a.1 with
      | none => simp [IsSampleProduct, sampled]
      | some factor =>
          have product {b : Sample α} : IsSampleProduct other a b ↔ (a.1, a.2 * factor) = b := by
            simp [IsSampleProduct, sampled, Prod.ext_iff, eq_comm]
          simp only [product, ← ih]
          cases alignedProducts other context rest <;> simp [Except.map, eq_comm]

theorem multiplyAligned_eq_ok {s other product : DateSeries α} {context : String} :
    s.multiplyAligned other context = .ok product ↔ IsProduct s other product := by
  unfold multiplyAligned IsProduct
  rw [← alignedProducts_eq_ok context]
  split
  next e failed => simp [failed]
  next r products =>
    simp only [products, Except.ok.injEq]
    exact ⟨congrArg samples, fun same => ext_samples same⟩

theorem IsProduct.unique {s other product product' : DateSeries α}
    (h : IsProduct s other product) (h' : IsProduct s other product') : product = product' := by
  have first : s.multiplyAligned other "" = .ok product := multiplyAligned_eq_ok.mpr h
  have second : s.multiplyAligned other "" = .ok product' := multiplyAligned_eq_ok.mpr h'
  exact Except.ok.inj (first.symm.trans second)

theorem IsProduct.dates_eq {s other product : DateSeries α} (h : IsProduct s other product) :
    product.dates = s.dates := by
  simp only [dates]
  rw [← List.forall₂_eq_eq_eq, List.forall₂_map_left_iff, List.forall₂_map_right_iff]
  exact (h.imp fun _ _ related => related.1).flip

/-- Up to the first missing date, the strict product collects what the lenient one does. -/
theorem alignedProducts_eq (other : DateSeries α) (context : String) (l : List (Sample α)) :
    alignedProducts other context l =
      match l.find? fun a => (other.valueOn? a.1).isNone with
      | some a => .error (.misaligned a.1 context)
      | none => .ok (l.filterMap (commonProduct? other)) := by
  induction l with
  | nil => rfl
  | cons a rest ih =>
      rw [alignedProducts, ih, List.find?_cons, List.filterMap_cons, commonProduct?]
      cases other.valueOn? a.1 with
      | none => rfl
      | some factor =>
          dsimp only [Option.isNone_some, Option.map_some]
          cases rest.find? fun a => (other.valueOn? a.1).isNone <;> rfl

theorem exists_alignedProducts_iff {other : DateSeries α} (context : String)
    {l : List (Sample α)} :
    (∃ r, alignedProducts other context l = .ok r) ↔ ∀ a ∈ l, (other.valueOn? a.1).isSome := by
  rw [alignedProducts_eq]
  cases missing : l.find? fun a => (other.valueOn? a.1).isNone with
  | some a =>
      have lacking : (other.valueOn? a.1).isNone := (List.find?_some missing :)
      simp only [reduceCtorEq, exists_false, false_iff]
      intro covered
      have found := covered a (List.mem_of_find?_eq_some missing)
      simp [Option.isNone_iff_eq_none.mp lacking] at found
  | none =>
      rw [List.find?_eq_none] at missing
      simpa [Option.isSome_iff_ne_none] using missing

theorem exists_isProduct_iff {s other : DateSeries α} :
    (∃ product, IsProduct s other product) ↔ ∀ d ∈ s.dates, (other.valueOn? d).isSome := by
  have dates : (∀ d ∈ s.dates, (other.valueOn? d).isSome) ↔
      ∀ a ∈ s.samples, (other.valueOn? a.1).isSome := by
    simp [DateSeries.dates]
  rw [dates, ← exists_alignedProducts_iff ""]
  constructor
  · rintro ⟨product, related⟩
    exact ⟨product.samples, (alignedProducts_eq_ok "").mpr related⟩
  · rintro ⟨r, products⟩
    cases h : s.multiplyAligned other "" with
    | ok product => exact ⟨product, multiplyAligned_eq_ok.mp h⟩
    | error e =>
        unfold multiplyAligned at h
        split at h
        next failed => simp [products] at failed
        next => cases h

theorem reciprocal_of_nonzero {s : DateSeries α}
    (nonzero : ∀ v ∈ s.values, Quantity.isZero v = false) :
    s.reciprocal = .ok (s.mapValues (Quantity.one / ·)) := by
  have none_zero : s.samples.find? (fun a => Quantity.isZero a.2) = none := by
    rw [List.find?_eq_none]
    intro a ha
    simp [nonzero a.2 (List.mem_map_of_mem ha)]
  simp only [reciprocal, none_zero]

theorem multiplyCommon_eq_scale {s other : DateSeries α} {factor : α}
    (same : ∀ d ∈ s.dates, other.valueOn? d = some factor) :
    s.multiplyCommon other = s.scale factor := by
  apply ext_samples
  simp only [multiplyCommon, scale, mapValues]
  rw [← List.filterMap_eq_map]
  apply List.filterMap_congr
  intro a ha
  simp [commonProduct?, same a.1 (List.mem_map_of_mem ha)]

end Products

end CurvePnl.DateSeries
