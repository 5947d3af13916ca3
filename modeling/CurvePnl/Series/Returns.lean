import CurvePnl.Series.Basic
import CurvePnl.SourceError

/-! # Returns

A return compares two samples that follow each other and is dated by the later one. The absolute
return is their difference, the relative return their quotient less one. A series of fewer than
two samples has no returns.
-/

namespace CurvePnl

/-- How levels are turned into moves. -/
inductive ReturnKind where
  | absolute
  | relative
  deriving Repr, DecidableEq, Inhabited

/-- The differences between samples that follow each other. -/
def absoluteMoves [Quantity α] : List (Sample α) → List (Sample α)
  | a :: b :: rest => (b.1, b.2 - a.2) :: absoluteMoves (b :: rest)
  | _ => []

/-- The quotients of samples that follow each other, less one. A zero with a successor has none. -/
def relativeMoves [Quantity α] : List (Sample α) → Except SourceError (List (Sample α))
  | a :: b :: rest =>
    if Quantity.isZero a.2 then
      .error ⟨.calculationFailed,
        "zero observation on " ++ a.1.text ++ " has no relative return"⟩
    else (relativeMoves (b :: rest)).map ((b.1, b.2 / a.2 - Quantity.one) :: ·)
  | _ => .ok []

theorem dates_of_absoluteMoves [Quantity α] (l : List (Sample α)) :
    (absoluteMoves l).map (·.1) = l.tail.map (·.1) := by
  induction l with
  | nil => rfl
  | cons a rest ih =>
    cases rest with
    | nil => rfl
    | cons b rest => simpa [absoluteMoves] using ih

theorem dates_of_relativeMoves [Quantity α] {l r : List (Sample α)}
    (h : relativeMoves l = .ok r) : r.map (·.1) = l.tail.map (·.1) := by
  induction l generalizing r with
  | nil => cases h; rfl
  | cons a rest ih =>
    cases rest with
    | nil => cases h; rfl
    | cons b rest =>
      simp only [relativeMoves] at h
      split at h
      · cases h
      · cases hr : relativeMoves (b :: rest) with
        | error e => rw [hr] at h; cases h
        | ok t => rw [hr] at h; cases h; simpa using ih hr

namespace DateSeries

theorem increasing_of_dates {l r : List (Sample α)} (h : r.map (·.1) = l.tail.map (·.1))
    (increasing : l.Pairwise fun a b => a.1 < b.1) : r.Pairwise fun a b => a.1 < b.1 := by
  have ordered : (r.map (·.1)).Pairwise (· < ·) := by
    rw [h]
    exact List.pairwise_map.2 (increasing.sublist (List.tail_sublist l))
  exact List.pairwise_map.1 ordered

def absoluteReturns [Quantity α] (s : DateSeries α) : DateSeries α :=
  ⟨absoluteMoves s.samples, increasing_of_dates (dates_of_absoluteMoves _) s.increasing⟩

/-- The series of moves. Moves whose dates do not increase would be an invalid input. -/
def ofMoves (moves : List (Sample α)) : Except SourceError (DateSeries α) :=
  match ofSamples moves with
  | .ok s => .ok s
  | .error e => .error (.ofValueError e)

/-- The returns of a series. -/
def returns [Quantity α] (kind : ReturnKind) (s : DateSeries α) :
    Except SourceError (DateSeries α) :=
  match kind with
  | .absolute => ofMoves (absoluteMoves s.samples)
  | .relative => do ofMoves (← relativeMoves s.samples)

end DateSeries

end CurvePnl
