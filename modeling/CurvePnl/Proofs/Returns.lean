import CurvePnl.Proofs.Series
import CurvePnl.Series.Returns

/-! # What returns yield

Moves lie between neighbours, so their dates are those of the series without its first. Dates of
moves increase, and rebuilding a series from them never fails: the only failure of the returns is
a zero that a relative move would have to be measured by.
-/

namespace CurvePnl

variable {α : Type} [Quantity α]

/-- The move from one level to the next. -/
def ReturnKind.move (kind : ReturnKind) (before after : α) : α :=
  match kind with
  | .absolute => after - before
  | .relative => after / before - Quantity.one

/-- The moves between neighbours, each dated by the later one. -/
def ReturnKind.moves (kind : ReturnKind) (l : List (Sample α)) : List (Sample α) :=
  l.zipWith (fun a b => (b.1, kind.move a.2 b.2)) l.tail

/-- The failure of a relative return whose earlier level is a zero on `d`. -/
def SourceError.zeroObservation (d : Date) : SourceError :=
  ⟨.calculationFailed, "zero observation on " ++ d.text ++ " has no relative return"⟩

theorem absoluteMoves_eq (l : List (Sample α)) :
    absoluteMoves l = ReturnKind.absolute.moves l := by
  induction l with
  | nil => rfl
  | cons a rest ih =>
      cases rest with
      | nil => rfl
      | cons b rest => simpa [absoluteMoves, ReturnKind.moves, ReturnKind.move] using ih

theorem relativeMoves_of_ok {l r : List (Sample α)} (h : relativeMoves l = .ok r) :
    r = ReturnKind.relative.moves l := by
  induction l generalizing r with
  | nil =>
      cases h
      rfl
  | cons a rest ih =>
      cases rest with
      | nil =>
          cases h
          rfl
      | cons b rest =>
          simp only [relativeMoves] at h
          split at h
          · cases h
          · cases others : relativeMoves (b :: rest) with
            | error e =>
                rw [others] at h
                cases h
            | ok t =>
                rw [others] at h
                cases h
                simp [ih others, ReturnKind.moves, ReturnKind.move]

theorem relativeMoves_of_error {l : List (Sample α)} {e : SourceError}
    (h : relativeMoves l = .error e) :
    ∃ a ∈ l.dropLast, Quantity.isZero a.2 = true ∧ e = .zeroObservation a.1 := by
  induction l with
  | nil => cases h
  | cons a rest ih =>
      cases rest with
      | nil => cases h
      | cons b rest =>
          simp only [relativeMoves] at h
          rw [List.dropLast_cons_cons]
          split at h
          next zero =>
            cases h
            exact ⟨a, List.mem_cons_self, zero, rfl⟩
          · cases others : relativeMoves (b :: rest) with
            | error e' =>
                rw [others] at h
                cases h
                obtain ⟨z, member, zero, rfl⟩ := ih others
                exact ⟨z, List.mem_cons_of_mem a member, zero, rfl⟩
            | ok t =>
                rw [others] at h
                cases h

theorem dates_moves (kind : ReturnKind) (l : List (Sample α)) :
    (kind.moves l).map (·.1) = (l.map (·.1)).tail := by
  unfold ReturnKind.moves
  cases l with
  | nil => rfl
  | cons a rest =>
      induction rest generalizing a with
      | nil => rfl
      | cons b rest ih => simpa using ih b

namespace DateSeries

omit [Quantity α] in
theorem ofMoves_samples (s : DateSeries α) : ofMoves s.samples = .ok s := by
  rw [ofMoves, ofSamples_samples]

theorem returns_absolute (s : DateSeries α) : s.returns .absolute = .ok s.absoluteReturns :=
  ofMoves_samples s.absoluteReturns

theorem returns_relative_of_moves {s : DateSeries α} {moves : List (Sample α)}
    (h : relativeMoves s.samples = .ok moves) :
    ∃ r : DateSeries α, r.samples = moves ∧ s.returns .relative = .ok r := by
  refine ⟨⟨moves, increasing_of_dates (dates_of_relativeMoves h) s.increasing⟩, rfl, ?_⟩
  simp only [returns, h]
  exact ofMoves_samples ⟨moves, _⟩

theorem samples_of_returns {kind : ReturnKind} {s r : DateSeries α} (h : s.returns kind = .ok r) :
    r.samples = kind.moves s.samples := by
  cases kind with
  | absolute =>
      rw [returns_absolute] at h
      cases h
      exact absoluteMoves_eq s.samples
  | relative =>
      cases moves : relativeMoves s.samples with
      | error e =>
          simp only [returns, moves] at h
          cases h
      | ok l =>
          obtain ⟨r', rfl, rebuilt⟩ := returns_relative_of_moves moves
          rw [rebuilt] at h
          cases h
          exact relativeMoves_of_ok moves

theorem dates_of_returns {kind : ReturnKind} {s r : DateSeries α} (h : s.returns kind = .ok r) :
    r.dates = s.dates.tail := by
  rw [dates, samples_of_returns h, dates_moves, dates]

theorem returns_of_error {kind : ReturnKind} {s : DateSeries α} {e : SourceError}
    (h : s.returns kind = .error e) :
    kind = .relative ∧ ∃ a ∈ s.samples.dropLast,
      Quantity.isZero a.2 = true ∧ e = .zeroObservation a.1 := by
  cases kind with
  | absolute =>
      rw [returns_absolute] at h
      cases h
  | relative =>
      cases moves : relativeMoves s.samples with
      | error e' =>
          simp only [returns, moves] at h
          cases h
          exact ⟨rfl, relativeMoves_of_error moves⟩
      | ok l =>
          obtain ⟨r, -, rebuilt⟩ := returns_relative_of_moves moves
          rw [rebuilt] at h
          cases h

end DateSeries

end CurvePnl
