import CurvePnl.Proofs.Reconstruction

/-! # Returns of any series

Returns compare neighbours, so each of them belongs to two samples that follow each other. Only a
relative return divides, and it divides by the earlier of the two: every value but the last is a
divisor. Cutting off samples at the front cuts off their returns and leaves the others as they are.
-/

namespace CurvePnl

variable {α : Type} [Quantity α]

theorem relativeMoves_eq (l : List (Sample α)) :
    relativeMoves l = match l.dropLast.find? fun a => Quantity.isZero a.2 with
      | some a => .error (.zeroObservation a.1)
      | none => .ok (ReturnKind.relative.moves l) := by
  induction l with
  | nil => rfl
  | cons a rest ih =>
      cases rest with
      | nil => rfl
      | cons b rest =>
          rw [relativeMoves, ih, List.dropLast_cons_cons, List.find?_cons]
          cases zero : Quantity.isZero a.2 with
          | true => rfl
          | false =>
              dsimp only [Bool.false_eq_true, if_false]
              cases (b :: rest).dropLast.find? fun a => Quantity.isZero a.2 <;> rfl

theorem moves_drop (kind : ReturnKind) (l : List (Sample α)) (k : Nat) :
    kind.moves (l.drop k) = (kind.moves l).drop k := by
  rw [ReturnKind.moves, ReturnKind.moves, List.drop_zipWith, List.tail_drop, List.drop_tail]

theorem length_moves (kind : ReturnKind) (l : List (Sample α)) :
    (kind.moves l).length = l.length - 1 := by
  simp [ReturnKind.moves]

theorem getElem?_moves {kind : ReturnKind} {l : List (Sample α)} {t : Nat} {before after : Sample α}
    (here : l[t]? = some before) (next : l[t + 1]? = some after) :
    (kind.moves l)[t]? = some (after.1, kind.move before.2 after.2) := by
  rw [ReturnKind.moves, List.getElem?_zipWith, List.getElem?_tail, here, next]

/-- Growing by each return in turn leads from the first value to the last. -/
theorem prod_relative_moves {a : Sample ℚ} {l : List (Sample ℚ)}
    (nonzero : ∀ b ∈ (a :: l).dropLast, b.2 ≠ 0) :
    ((ReturnKind.relative.moves (a :: l)).map (1 + ·.2)).prod * a.2 =
      ((a :: l).getLast (List.cons_ne_nil a l)).2 := by
  induction l generalizing a with
  | nil => simp [ReturnKind.moves]
  | cons b rest ih =>
      rw [List.dropLast_cons_cons, List.forall_mem_cons] at nonzero
      obtain ⟨divisor, nonzero⟩ := nonzero
      have first : ReturnKind.relative.moves (a :: b :: rest) =
          (b.1, b.2 / a.2 - 1) :: ReturnKind.relative.moves (b :: rest) := rfl
      rw [first, List.getLast_cons_cons, ← ih nonzero, List.map_cons, List.prod_cons]
      have growth : (1 + (b.2 / a.2 - 1)) * a.2 = b.2 := by
        rw [add_sub_cancel, div_mul_cancel₀ _ divisor]
      calc (1 + (b.2 / a.2 - 1)) * ((ReturnKind.relative.moves (b :: rest)).map (1 + ·.2)).prod * a.2
          = ((ReturnKind.relative.moves (b :: rest)).map (1 + ·.2)).prod *
              ((1 + (b.2 / a.2 - 1)) * a.2) := by ring
        _ = ((ReturnKind.relative.moves (b :: rest)).map (1 + ·.2)).prod * b.2 := by rw [growth]

namespace DateSeries

theorem returns_relative_of_find?_none {x : DateSeries α}
    (found : x.samples.dropLast.find? (fun a => Quantity.isZero a.2) = none) :
    ∃ r, x.returns .relative = .ok r := by
  have moves := relativeMoves_eq x.samples
  rw [found] at moves
  obtain ⟨r, -, taken⟩ := returns_relative_of_moves moves
  exact ⟨r, taken⟩

theorem returns_relative_of_find?_some {x : DateSeries α} {a : Sample α}
    (found : x.samples.dropLast.find? (fun a => Quantity.isZero a.2) = some a) :
    x.returns .relative = .error (.zeroObservation a.1) := by
  have moves := relativeMoves_eq x.samples
  rw [found] at moves
  rw [returns, moves]
  rfl

theorem returns_relative_eq_ok_iff {x : DateSeries α} :
    (∃ r, x.returns .relative = .ok r) ↔
      ∀ a ∈ x.samples.dropLast, Quantity.isZero a.2 = false := by
  cases found : x.samples.dropLast.find? fun a => Quantity.isZero a.2 with
  | none =>
      have nonzero := List.find?_eq_none.mp found
      simpa [returns_relative_of_find?_none found] using nonzero
  | some a =>
      have zero := List.find?_some found
      have member := List.mem_of_find?_eq_some found
      constructor
      · simp [returns_relative_of_find?_some found]
      · intro nonzero
        simp [nonzero a member] at zero

omit [Quantity α] in
theorem date_le_of_find?_eq_some {l : List (Sample α)} {p : Sample α → Bool} {a b : Sample α}
    (increasing : l.Pairwise fun a b => a.1 < b.1) (found : l.find? p = some a) (member : b ∈ l)
    (hit : p b = true) : a.1 ≤ b.1 := by
  obtain ⟨-, front, back, split, missed⟩ := List.find?_eq_some_iff_append.mp found
  rw [split] at increasing member
  obtain ⟨-, later, -⟩ := List.pairwise_append.mp increasing
  rcases List.mem_append.mp member with before | here
  · simpa [hit] using missed b before
  · rcases List.mem_cons.mp here with rfl | after
    · exact Int.le_refl _
    · exact Int.le_of_lt ((List.pairwise_cons.mp later).1 b after)

theorem returns_relative_eq_error {x : DateSeries α} {e : SourceError} :
    x.returns .relative = .error e ↔
      ∃ a ∈ x.samples.dropLast, Quantity.isZero a.2 = true ∧
        (∀ b ∈ x.samples.dropLast, Quantity.isZero b.2 = true → a.1 ≤ b.1) ∧
        e = .zeroObservation a.1 := by
  cases found : x.samples.dropLast.find? fun a => Quantity.isZero a.2 with
  | none =>
      obtain ⟨r, taken⟩ := returns_relative_of_find?_none found
      rw [List.find?_eq_none] at found
      rw [taken]
      constructor
      · nofun
      · rintro ⟨a, member, zero, -⟩
        exact absurd zero (found a member)
  | some a =>
      have failed := returns_relative_of_find?_some found
      have zero := List.find?_some found
      have member := List.mem_of_find?_eq_some found
      have increasing := x.increasing.sublist (List.dropLast_sublist x.samples)
      have earliest : ∀ b ∈ x.samples.dropLast, Quantity.isZero b.2 = true → a.1 ≤ b.1 :=
        fun b => date_le_of_find?_eq_some increasing found
      rw [failed]
      constructor
      · intro same
        cases same
        exact ⟨a, member, zero, earliest, rfl⟩
      · rintro ⟨b, member', zero', earliest', rfl⟩
        have same : a.1 = b.1 := Date.ext_number
          (Int.le_antisymm (earliest b member' zero') (earliest' a member zero))
        rw [same]

/-- `r` has one sample for each sample of `x` but the first, on its date, with the move to it from
the sample before. -/
structure IsReturnsOf (r : DateSeries α) (kind : ReturnKind) (x : DateSeries α) : Prop where
  size : r.size = x.size - 1
  sample : ∀ t before after, x.samples[t]? = some before → x.samples[t + 1]? = some after →
    r.samples[t]? = some (after.1, kind.move before.2 after.2)

theorem isReturnsOf_of_returns {kind : ReturnKind} {x r : DateSeries α}
    (taken : x.returns kind = .ok r) : r.IsReturnsOf kind x := by
  have moves := samples_of_returns taken
  refine ⟨?_, fun t before after here next => ?_⟩
  · rw [size, moves, length_moves, size]
  · rw [moves]
    exact getElem?_moves here next

theorem exists_returns_tailFrom {kind : ReturnKind} {x r : DateSeries α}
    (taken : x.returns kind = .ok r) (k : Nat) :
    ∃ r', (x.tailFrom k).returns kind = .ok r' ∧ r'.samples = r.samples.drop k := by
  have ok : ∃ r', (x.tailFrom k).returns kind = .ok r' := by
    cases kind with
    | absolute => exact ⟨_, returns_absolute _⟩
    | relative =>
        apply returns_relative_eq_ok_iff.mpr
        intro a member
        have divisor : a ∈ x.samples.dropLast := by
          rw [tailFrom, List.dropLast_drop_eq_drop_dropLast] at member
          exact List.mem_of_mem_drop member
        exact returns_relative_eq_ok_iff.mp ⟨r, taken⟩ a divisor
  obtain ⟨r', taken'⟩ := ok
  refine ⟨r', taken', ?_⟩
  rw [samples_of_returns taken', samples_of_returns taken]
  exact moves_drop kind x.samples k

/-- The returns from position `k` on are those dated after the sample there. -/
theorem drop_returns {kind : ReturnKind} {x r : DateSeries α} (taken : x.returns kind = .ok r)
    {k : Nat} {d : Date} (here : x.dates[k]? = some d) :
    r.samples.drop k = r.samples.filter (d < ·.1) := by
  have dates : r.samples.map (·.1) = x.dates.tail := dates_of_returns taken
  obtain ⟨inside, rfl⟩ := List.getElem?_eq_some_iff.mp here
  have increasing : x.dates.Pairwise (· < ·) := List.pairwise_map.mpr x.increasing
  rw [List.pairwise_iff_getElem] at increasing
  have dated {i : Nat} {a : Sample α} (at_i : r.samples[i]? = some a) :
      ∃ inside : i + 1 < x.dates.length, x.dates[i + 1] = a.1 := by
    rw [← List.getElem?_eq_some_iff, ← List.getElem?_tail, ← dates, List.getElem?_map, at_i]
    rfl
  have before : (r.samples.take k).filter (x.dates[k] < ·.1) = [] := by
    rw [List.filter_eq_nil_iff]
    intro a member later
    obtain ⟨i, early, at_i⟩ := List.mem_take_iff_getElem.mp member
    obtain ⟨inside', date⟩ := dated (List.getElem?_eq_some_iff.mpr ⟨by omega, at_i⟩)
    rw [← date, decide_eq_true_eq, Date.lt_def] at later
    rcases Nat.eq_or_lt_of_le (show i + 1 ≤ k by omega) with same | earlier
    · subst same
      omega
    · have order := increasing (i + 1) k inside' inside earlier
      rw [Date.lt_def] at order
      omega
  have after : (r.samples.drop k).filter (x.dates[k] < ·.1) = r.samples.drop k := by
    rw [List.filter_eq_self]
    intro a member
    obtain ⟨i, late, at_i⟩ := List.mem_drop_iff_getElem.mp member
    obtain ⟨inside', date⟩ := dated (List.getElem?_eq_some_iff.mpr ⟨by omega, at_i⟩)
    rw [← date, decide_eq_true_eq]
    exact increasing k (k + i + 1) inside inside' (by omega)
  conv_rhs => rw [← List.take_append_drop k r.samples, List.filter_append, before, after]
  rfl

theorem ne_zero_of_returns {x r : DateSeries ℚ} (taken : x.returns .relative = .ok r) :
    ∀ a ∈ x.samples.dropLast, a.2 ≠ 0 := by
  intro a member zero
  have clear := returns_relative_eq_ok_iff.mp ⟨r, taken⟩ a member
  rw [zero] at clear
  cases clear

theorem prod_values_relative {x r : DateSeries ℚ} {first last : ℚ}
    (taken : x.returns .relative = .ok r) (begins : x.values.head? = some first)
    (ends : x.values.getLast? = some last) : (r.values.map (1 + ·)).prod * first = last := by
  have divisors := ne_zero_of_returns taken
  obtain ⟨samples, increasing⟩ := x
  cases samples with
  | nil => cases begins
  | cons a rest =>
      have start : a.2 = first := Option.some.inj begins
      have final : ((a :: rest).getLast (List.cons_ne_nil a rest)).2 = last := by
        simpa [values, ← List.map_cons, List.getLast?_eq_some_getLast] using ends
      rw [values, samples_of_returns taken, List.map_map, ← start, ← final]
      exact prod_relative_moves divisors

theorem first_ne_zero {x r : DateSeries ℚ} {first : ℚ} (taken : x.returns .relative = .ok r)
    (begins : x.values.head? = some first) (successor : 1 < x.size) : first ≠ 0 := by
  have divisors := ne_zero_of_returns taken
  obtain ⟨samples, increasing⟩ := x
  rcases samples with _ | ⟨a, _ | ⟨b, rest⟩⟩
  · cases begins
  · exact absurd successor (Nat.lt_irrefl 1)
  · have start : a.2 = first := Option.some.inj begins
    rw [← start]
    exact divisors a List.mem_cons_self

/-- Absolute returns always exist. Relative ones exist exactly if no value but the last is zero, and
otherwise the earliest such zero is told. There is one return for each date but the first, with the
move to it from the date before; and cutting off samples at the front leaves the returns dated after
the first that is kept. With exact numbers, the absolute returns add up to what lies between the
first value and the last, and growing by all relative returns leads from the first to the last; so
their product is the quotient of the two, which exists if there is any return. -/
theorem returns_pair_neighbours :
    (∀ (α : Type) [Quantity α] (x : DateSeries α),
      (∃ r, x.returns .absolute = .ok r) ∧
      ((∃ r, x.returns .relative = .ok r) ↔
        ∀ a ∈ x.samples.dropLast, Quantity.isZero a.2 = false) ∧
      (∀ e, x.returns .relative = .error e ↔
        ∃ a ∈ x.samples.dropLast, Quantity.isZero a.2 = true ∧
          (∀ b ∈ x.samples.dropLast, Quantity.isZero b.2 = true → a.1 ≤ b.1) ∧
          e = .zeroObservation a.1) ∧
      ∀ kind r, x.returns kind = .ok r →
        r.IsReturnsOf kind x ∧
        ∀ k d, x.dates[k]? = some d →
          ∃ r', (x.tailFrom k).returns kind = .ok r' ∧ r'.samples = r.samples.filter (d < ·.1)) ∧
    ∀ (x r : DateSeries ℚ) (first last : ℚ), x.values.head? = some first →
      x.values.getLast? = some last →
      (x.returns .absolute = .ok r → r.values.sum = last - first) ∧
      (x.returns .relative = .ok r →
        (r.values.map (1 + ·)).prod * first = last ∧
        (1 < x.size ∨ first ≠ 0 → (r.values.map (1 + ·)).prod = last / first)) := by
  refine ⟨?neighbours, ?exact_returns⟩
  case neighbours =>
    intro α _ x
    refine ⟨⟨_, returns_absolute x⟩, returns_relative_eq_ok_iff, fun e => returns_relative_eq_error,
      ?_⟩
    intro kind r taken
    refine ⟨isReturnsOf_of_returns taken, ?_⟩
    intro k d here
    obtain ⟨r', taken', kept⟩ := exists_returns_tailFrom taken k
    exact ⟨r', taken', kept.trans (drop_returns taken here)⟩
  case exact_returns =>
    intro x r first last begins ends
    refine ⟨?_, ?_⟩
    · intro taken
      rw [returns_absolute] at taken
      cases taken
      exact sum_values_absoluteReturns begins ends
    · intro taken
      have grown := prod_values_relative taken begins ends
      refine ⟨grown, ?_⟩
      intro divisible
      have nonzero : first ≠ 0 := divisible.elim (first_ne_zero taken begins) id
      exact eq_div_of_mul_eq nonzero grown

/-- Levels that rise, and fall to zero in the end. -/
def fallingLevels : DateSeries ℚ :=
  ⟨[(.friday, 2), (.monday, 3), (Date.last, 0)], by decide⟩

theorem returns_fallingLevels :
    (∀ a ∈ fallingLevels.samples.dropLast, Quantity.isZero a.2 = false) ∧
      ∃ r r', fallingLevels.returns .relative = .ok r ∧ r.size = 2 ∧
        r.samples[1]? = some (Date.last, 0 / 3 - 1) ∧ (r.values.map (1 + ·)).prod = 0 / 2 ∧
        (fallingLevels.tailFrom 1).returns .relative = .ok r' ∧
        r'.samples = r.samples.filter (.monday < ·.1) := by
  obtain ⟨series, exact_returns⟩ := returns_pair_neighbours
  obtain ⟨-, succeeds, -, pairs⟩ := series ℚ fallingLevels
  have nonzero : ∀ a ∈ fallingLevels.samples.dropLast, Quantity.isZero a.2 = false := by decide
  obtain ⟨r, taken⟩ := succeeds.mpr nonzero
  obtain ⟨neighbours, cut⟩ := pairs .relative r taken
  obtain ⟨r', taken', kept⟩ := cut 1 .monday rfl
  obtain ⟨-, growth⟩ := exact_returns fallingLevels r 2 0 rfl rfl
  exact ⟨nonzero, r, r', taken, neighbours.size, neighbours.sample 1 _ _ rfl rfl,
    (growth taken).2 (.inl (by decide)), taken', kept⟩

end DateSeries

end CurvePnl
