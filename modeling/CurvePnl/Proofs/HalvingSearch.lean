import Mathlib.Data.List.Basic

/-! # Search by halving

A position in an ordered list is found by halving the range in which it lies. The search does not
stop early: it narrows the range down to one position, and then looks at what stands there.
-/

namespace CurvePnl

variable {β : Type}

/-- Halves the range of `size` positions from `base` on, down to the last position that is not
past. -/
def halve (past : Nat → Bool) (base size : Nat) : Nat :=
  if 1 < size then
    let half := size / 2
    halve past (if past (base + half) then base else base + half) (size - half)
  else base
termination_by size

/-- The position of an element that compares equal, or else that at which one could be inserted. -/
def searchBy (order : β → Ordering) (l : List β) : Except Nat Nat :=
  let base := halve (fun i => l[i]?.all (order · == .gt)) 0 l.length
  match l[base]? with
  | none => .error 0
  | some b =>
    match order b with
    | .eq => .ok base
    | .lt => .error (base + 1)
    | .gt => .error base

/-- The number of elements at the front that satisfy `p`, if no others do. -/
def partitionPoint (p : β → Bool) (l : List β) : Nat :=
  match searchBy (fun b => if p b then .lt else .gt) l with
  | .ok i => i
  | .error i => i

/-- The range is narrowed down to a position of which nothing after it is not past; it is not past
itself unless it is the first. -/
theorem halve_spec {past : Nat → Bool} (monotone : ∀ i k, i ≤ k → past i → past k)
    (base : Nat) {size : Nat} (nonempty : 0 < size) :
    base ≤ halve past base size ∧ halve past base size < base + size ∧
      (halve past base size = base ∨ past (halve past base size) = false) ∧
      ∀ k, halve past base size < k → k < base + size → past k = true := by
  fun_induction halve past base size with
  | case1 base size large half ih =>
      have halved : half = size / 2 := rfl
      obtain ⟨lower, upper, here, above⟩ := ih (by omega)
      cases middle : past (base + half) with
      | true =>
          simp only [middle, ↓reduceIte, ↓reduceDIte] at lower upper here above ⊢
          refine ⟨lower, by omega, here, fun k after inside => ?_⟩
          by_cases near : k < base + (size - half)
          · exact above k after near
          · exact monotone (base + half) k (by omega) middle
      | false =>
          simp only [middle, Bool.false_eq_true, ↓reduceIte, ↓reduceDIte] at lower upper here above ⊢
          refine ⟨by omega, by omega, ?_, fun k after inside => above k after (by omega)⟩
          rcases here with first | here
          · exact .inr (by rw [first, middle])
          · exact .inr here
  | case2 base size small =>
      exact ⟨Nat.le_refl _, by omega, .inl rfl, fun k after inside => by omega⟩

section Ordered

variable {order : β → Ordering} {l : List β}

/-- What is not less is followed by greater elements only. -/
abbrev StrictlyOrdered (order : β → Ordering) (l : List β) : Prop :=
  l.Pairwise fun a b => order a ≠ .lt → order b = .gt

theorem exists_halved (ordered : StrictlyOrdered order l) (nonempty : l ≠ []) :
    ∃ i b, halve (fun i => l[i]?.all (order · == .gt)) 0 l.length = i ∧ l[i]? = some b ∧
      (i = 0 ∨ order b ≠ .gt) ∧ ∀ k c, i < k → l[k]? = some c → order c = .gt := by
  have monotone : ∀ i k : Nat, i ≤ k → l[i]?.all (order · == .gt) → l[k]?.all (order · == .gt) := by
    intro i k before past
    cases found : l[k]? with
    | none => rfl
    | some c =>
        obtain ⟨inside, rfl⟩ := List.getElem?_eq_some_iff.mp found
        rcases Nat.eq_or_lt_of_le before with rfl | before
        · rwa [found] at past
        · have outside : i < l.length := by omega
          rw [List.getElem?_eq_getElem outside] at past
          have greater : order l[i] = .gt := by simpa using past
          simpa using List.pairwise_iff_getElem.mp ordered i k outside inside before
            (by rw [greater]; nofun)
  obtain ⟨-, inside, here, above⟩ :=
    halve_spec monotone 0 (List.length_pos_of_ne_nil nonempty)
  rw [Nat.zero_add] at inside above
  refine ⟨_, _, rfl, List.getElem?_eq_getElem inside, here.imp id ?_, fun k c after found => ?_⟩
  · intro reached
    rw [List.getElem?_eq_getElem inside] at reached
    simpa using reached
  · obtain ⟨inside, rfl⟩ := List.getElem?_eq_some_iff.mp found
    have past := above k after inside
    rw [found] at past
    simpa using past

theorem searchBy_eq_ok_iff (ordered : StrictlyOrdered order l) {i : Nat} :
    searchBy order l = .ok i ↔ ∃ b, l[i]? = some b ∧ order b = .eq := by
  unfold searchBy
  by_cases nonempty : l = []
  · subst nonempty
    simp
  · obtain ⟨base, b, narrowed, here, low, above⟩ := exists_halved ordered nonempty
    simp only [narrowed, here]
    constructor
    · intro found
      split at found
      next equal =>
        cases found
        exact ⟨b, here, equal⟩
      · cases found
      · cases found
    · rintro ⟨c, found, equal⟩
      -- The element is not greater, and what comes after it is.
      have reached : i ≤ base := by
        by_contra after
        rw [above i c (by omega) found] at equal
        cases equal
      have same : i = base := by
        by_contra before
        have greater : order b = .gt := by
          obtain ⟨inside, rfl⟩ := List.getElem?_eq_some_iff.mp found
          obtain ⟨inside', rfl⟩ := List.getElem?_eq_some_iff.mp here
          exact List.pairwise_iff_getElem.mp ordered i base inside inside' (by omega)
            (by rw [equal]; nofun)
        rcases low with first | low
        · omega
        · exact low greater
      subst same
      rw [here, Option.some.injEq] at found
      rw [found, equal]

end Ordered

/-- If an element that does not satisfy `p` is followed by no other that does, then the partition
point is the position of the first of them. -/
theorem partitionPoint_eq_findIdx {p : β → Bool} {l : List β}
    (split : l.Pairwise fun a b => p a = false → p b = false) :
    partitionPoint p l = l.findIdx (! p ·) := by
  have ordered : StrictlyOrdered (fun b => if p b then .lt else .gt) l := by
    refine split.imp fun {a b} falls past => ?_
    cases first : p a with
    | true => simp [first] at past
    | false => simp [falls first]
  unfold partitionPoint searchBy
  by_cases nonempty : l = []
  · subst nonempty
    simp
  · obtain ⟨base, b, narrowed, here, low, above⟩ := exists_halved ordered nonempty
    obtain ⟨inside, rfl⟩ := List.getElem?_eq_some_iff.mp here
    simp only [narrowed, here]
    have length : l.findIdx (! p ·) ≤ l.length := List.findIdx_le_length
    cases satisfied : p l[base] with
    | true =>
        simp only [if_true]
        rcases Nat.lt_trichotomy (l.findIdx (! p ·)) (base + 1) with early | same | late
        · have nearer : l.findIdx (! p ·) < l.length := by omega
          have found := List.findIdx_getElem (w := nearer)
          rcases Nat.eq_or_lt_of_le (Nat.le_of_lt_succ early) with same | early
          · simp [same, satisfied] at found
          · have falls := List.pairwise_iff_getElem.mp split _ base (by omega) inside early
            rw [falls (by simpa using found)] at satisfied
            cases satisfied
        · exact same.symm
        · have further : base + 1 < l.length := by omega
          have holds := List.not_of_lt_findIdx late
          have greater := above (base + 1) _ (by omega) (List.getElem?_eq_getElem further)
          simp at holds
          simp [holds] at greater
    | false =>
        obtain rfl : base = 0 := by simpa [satisfied] using low
        have none : ¬ 0 < l.findIdx (! p ·) := by
          intro late
          have holds := List.not_of_lt_findIdx late
          simp [satisfied] at holds
        simp only [Bool.false_eq_true, if_false]
        exact (Nat.eq_zero_of_not_pos none).symm

end CurvePnl
