import CurvePnl.Bucket
import CurvePnl.Curve
import Mathlib.Data.List.Basic

/-! # The order of tenors

Tenors are compared by length and then by unit. That is a total order in which only equal tenors
compare equal, so neighbours that ascend make the whole list ascend, and what an index holds for a
tenor is found by the tenors that compare equal to it.
-/

namespace CurvePnl

namespace Tenor

instance : Std.TransOrd Tenor :=
  inferInstanceAs (Std.TransCmp (compareLex (compareOn days) (compareOn fun t => t.unit.rank)))

/-- Tenors of one length and one unit are the same. -/
instance : Std.LawfulEqOrd Tenor where
  eq_of_compare := by
    intro t u same
    obtain ⟨length, rank⟩ := Ordering.then_eq_eq.mp same
    have length := Std.LawfulEqOrd.eq_of_compare length
    have rank := Std.LawfulEqOrd.eq_of_compare rank
    obtain ⟨unit, count⟩ := t
    obtain ⟨unit', count'⟩ := u
    have unit_eq : unit = unit' := by cases unit <;> cases unit' <;> first | rfl | cases rank
    subst unit_eq
    have positive : 0 < unit.length := by cases unit <;> decide
    have count_eq : count.toNat = count'.toNat := Nat.eq_of_mul_eq_mul_right positive length
    rw [UInt32.toNat_inj.mp count_eq]

/-- The length in days as a product of 64 bits. -/
def days64 (t : Tenor) : UInt64 := t.count.toUInt64 * .ofNat t.unit.length

theorem days_lt (t : Tenor) : t.days < UInt64.size := by
  have length : t.unit.length ≤ 365 := by cases t.unit <;> decide
  calc
    t.days ≤ t.count.toNat * 365 := Nat.mul_le_mul_left _ length
    _ < UInt64.size := by
      have count := t.count.toNat_lt
      simp only [UInt64.size]
      omega

/-- The product of 64 bits does not overflow. -/
@[simp] theorem toNat_days64 (t : Tenor) : t.days64.toNat = t.days := by
  have length : t.unit.length < UInt64.size := by cases t.unit <;> decide
  have fits := t.days_lt
  rw [days] at fits ⊢
  simp only [days64, UInt64.toNat_mul, UInt32.toNat_toUInt64, UInt64.toNat_ofNat_of_lt' length]
  exact Nat.mod_eq_of_lt fits

theorem compare_days64 (t u : Tenor) : compare t.days64 u.days64 = compare t.days u.days := by
  simp [compare, compareOfLessAndEq, UInt64.lt_iff_toNat_lt, ← UInt64.toNat_inj]

end Tenor

/-- Every tenor stands before all that follow it, also in the order of tenors. -/
def Ascending (tenors : List Tenor) : Prop := tenors.Pairwise fun t u => compare t u = .lt

namespace Ascending

instance (tenors : List Tenor) : Decidable (Ascending tenors) :=
  inferInstanceAs (Decidable (tenors.Pairwise fun t u => compare t u = .lt))

theorem iff_nodup_and_sorted {tenors : List Tenor} :
    Ascending tenors ↔ tenors.Nodup ∧ tenors.Pairwise fun t u => (compare t u).isLE := by
  rw [List.nodup_iff_pairwise_ne, ← List.pairwise_and_iff]
  have strict (t u : Tenor) : compare t u = .lt ↔ t ≠ u ∧ (compare t u).isLE = true := by
    have same : compare t u = .eq ↔ t = u := Std.compare_eq_iff_eq
    rw [ne_eq, ← same]
    cases compare t u <;> simp
  simp only [Ascending, strict]

theorem nodup {tenors : List Tenor} (ascending : Ascending tenors) : tenors.Nodup :=
  (iff_nodup_and_sorted.mp ascending).1

theorem sorted {tenors : List Tenor} (ascending : Ascending tenors) :
    tenors.Pairwise fun t u => (compare t u).isLE :=
  (iff_nodup_and_sorted.mp ascending).2

theorem eq_of_perm {tenors tenors' : List Tenor}
    (sorted : tenors.Pairwise fun t u => (compare t u).isLE)
    (sorted' : tenors'.Pairwise fun t u => (compare t u).isLE) (same : tenors.Perm tenors') :
    tenors = tenors' := by
  refine List.Perm.eq_of_pairwise ?_ sorted sorted' same
  intro t u _ _ before after
  exact Std.compare_eq_iff_eq.mp (Std.OrientedCmp.isLE_antisymm before after)

theorem eq_of_mem_iff {tenors tenors' : List Tenor} (ascending : Ascending tenors)
    (ascending' : Ascending tenors') (same : ∀ t, t ∈ tenors ↔ t ∈ tenors') :
    tenors = tenors' := by
  apply eq_of_perm ascending.sorted ascending'.sorted
  exact (List.perm_ext_iff_of_nodup ascending.nodup ascending'.nodup).mpr same

/-- Ascending tenors are what sorting makes of their elements, each of which stands there once. -/
theorem iff_nodup_and_unique {tenors : List Tenor} :
    Ascending tenors ↔ tenors.Nodup ∧ ∀ l : List Tenor,
      (l.Perm tenors ∧ l.Pairwise fun t u => (compare t u).isLE) ↔ l = tenors := by
  rw [iff_nodup_and_sorted]
  constructor
  · intro ⟨nodup, sorted⟩
    refine ⟨nodup, fun l => ⟨fun ⟨same, sorted'⟩ => eq_of_perm sorted' sorted same, ?_⟩⟩
    rintro rfl
    exact ⟨.refl _, sorted⟩
  · intro ⟨nodup, unique⟩
    exact ⟨nodup, ((unique tenors).mpr rfl).2⟩

instance : Trans (fun t u : Tenor => compare t u = .lt) (fun t u => compare t u = .lt)
    (fun t u => compare t u = .lt) :=
  ⟨Std.TransCmp.lt_trans⟩

theorem iff_isChain {tenors : List Tenor} :
    Ascending tenors ↔ tenors.IsChain fun t u => ¬ (compare t u).isGE := by
  rw [Ascending, ← List.isChain_iff_pairwise]
  have strict (t u : Tenor) : compare t u = .lt ↔ ¬ (compare t u).isGE = true := by
    cases compare t u <;> simp
  simp only [strict]

end Ascending

namespace ImpliedCurve

variable {α : Type} {curve : ImpliedCurve α}

theorem isAscending_iff_isChain :
    curve.isAscending = true ↔ curve.tenors.IsChain fun t u => ¬ (compare t u).isGE := by
  unfold isAscending
  induction curve.tenors with
  | nil => simp
  | cons t rest ih =>
      cases rest with
      | nil => simp
      | cons u rest =>
          have strict : (compare t u).isLT = true ↔ ¬ (compare t u).isGE = true := by
            cases compare t u <;> simp
          simp only [List.tail_cons, List.zip_cons_cons, List.all_cons, Bool.and_eq_true] at ih ⊢
          rw [ih, strict, List.isChain_cons_cons]

theorem isAscending_iff : curve.isAscending = true ↔ Ascending curve.tenors := by
  rw [isAscending_iff_isChain, Ascending.iff_isChain]

end ImpliedCurve

namespace Tenor

/-- The lengths of tenors fit into 64 bits, and their order is total, with only a tenor itself equal
to it. So an index finds under a tenor what was put there under one that compares equal, and a curve
passes the check of its neighbours exactly if its tenors are all different and the one arrangement
of themselves that is in order. -/
theorem order_of_tenors :
    (∀ t : Tenor, t.days < UInt64.size ∧ t.days64.toNat = t.days) ∧
    (∀ t u : Tenor,
      compare t u = (compare t.days64 u.days64).then (compare t.unit.rank u.unit.rank) ∧
      compare u t = (compare t u).swap ∧ (compare t u = .eq ↔ t = u)) ∧
    (∀ t u v : Tenor, (compare t u).isLE → (compare u v).isLE → (compare t v).isLE) ∧
    (∀ (β : Type) (index : Std.HashMap Tenor β) (t u : Tenor) (b : β),
      (index.insert t b)[u]? = if compare t u = .eq then some b else index[u]?) ∧
    (∀ (α : Type) (curve : ImpliedCurve α),
      curve.isAscending = true ↔ curve.tenors.IsChain fun t u => ¬ (compare t u).isGE) ∧
    ∀ tenors : List Tenor,
      (tenors.IsChain fun t u => ¬ (compare t u).isGE) ↔
        tenors.Nodup ∧ ∀ l : List Tenor,
          (l.Perm tenors ∧ l.Pairwise fun t u => (compare t u).isLE) ↔ l = tenors := by
  refine ⟨fun t => ⟨t.days_lt, t.toNat_days64⟩, ?total, fun t u v => Std.TransCmp.isLE_trans,
    ?index, ?check, ?lists⟩
  case total =>
    intro t u
    refine ⟨?_, Std.OrientedCmp.eq_swap, Std.compare_eq_iff_eq⟩
    rw [compare_days64]
    rfl
  case index =>
    intro β index t u b
    simp [Std.HashMap.getElem?_insert]
  case check =>
    intro α curve
    exact ImpliedCurve.isAscending_iff_isChain
  case lists =>
    intro tenors
    rw [← Ascending.iff_isChain, Ascending.iff_nodup_and_unique]

/-- Tenors of which many have one length, from no days to as many years as can be counted. -/
def equalLengths : List Tenor :=
  [⟨.days, 0⟩, ⟨.weeks, 0⟩, ⟨.years, 0⟩, ⟨.days, 7⟩, ⟨.weeks, 1⟩, ⟨.days, 210⟩, ⟨.weeks, 30⟩,
    ⟨.months, 7⟩, ⟨.days, 4294967295⟩, ⟨.years, 4294967295⟩]

theorem order_of_equalLengths :
    (⟨.years, 4294967295⟩ : Tenor).days64.toNat = 1567663062675 ∧
      (compare (⟨.days, 210⟩ : Tenor) ⟨.weeks, 30⟩).isLE ∧
      (compare (⟨.weeks, 30⟩ : Tenor) ⟨.months, 7⟩).isLE ∧
      (compare (⟨.days, 210⟩ : Tenor) ⟨.months, 7⟩).isLE ∧ equalLengths.Nodup ∧
      equalLengths.reverse.mergeSort (fun t u => (compare t u).isLE) = equalLengths := by
  obtain ⟨lengths, orient, trans, -, -, lists⟩ := order_of_tenors
  have first : (compare (⟨.days, 210⟩ : Tenor) ⟨.weeks, 30⟩).isLE := by decide
  have second : (compare (⟨.weeks, 30⟩ : Tenor) ⟨.months, 7⟩).isLE := by decide
  obtain ⟨nodup, unique⟩ := (lists equalLengths).mp (by decide)
  refine ⟨(lengths _).2, first, second, trans _ _ _ first second, nodup, ?_⟩
  have total (t u : Tenor) : ((compare t u).isLE || (compare u t).isLE) = true := by
    rw [(orient t u).2.1]
    cases compare t u <;> rfl
  exact (unique _).mp
    ⟨(List.mergeSort_perm _ _).trans (List.reverse_perm _), List.pairwise_mergeSort trans total _⟩

end Tenor

end CurvePnl
