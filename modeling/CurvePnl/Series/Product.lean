import CurvePnl.Series.Basic

/-! # Products of series

Two series are multiplied date by date: strictly, where each date of the first has to be sampled
in the second, or leniently, where dates without a partner are dropped.
-/

namespace CurvePnl.DateSeries

variable {α : Type} [Quantity α]

/-- Each sample times the value of `other` on its date; fails at the first date without one. -/
def alignedProducts (other : DateSeries α) (context : String) :
    List (Sample α) → Except ValueError (List (Sample α))
  | [] => .ok []
  | (d, v) :: rest =>
    match other.valueOn? d with
    | none => .error (.misaligned d context)
    | some factor => (alignedProducts other context rest).map ((d, v * factor) :: ·)

theorem dates_of_alignedProducts {other : DateSeries α} {context : String}
    {l r : List (Sample α)} (h : alignedProducts other context l = .ok r) :
    r.map (·.1) = l.map (·.1) := by
  induction l generalizing r with
  | nil => cases h; rfl
  | cons a rest ih =>
    obtain ⟨d, v⟩ := a
    simp only [alignedProducts] at h
    split at h
    · cases h
    · cases hr : alignedProducts other context rest with
      | error e => rw [hr] at h; cases h
      | ok t => rw [hr] at h; cases h; simp [ih hr]

/-- The strict product: every date of `s` must be sampled in `other`, whose other dates do not
matter. `context` says in the error which series lacked a date. -/
def multiplyAligned (s other : DateSeries α) (context : String) :
    Except ValueError (DateSeries α) :=
  match h : alignedProducts other context s.samples with
  | .error e => .error e
  | .ok r => .ok ⟨r, by
      have ordered : (r.map (·.1)).Pairwise (· < ·) := by
        rw [dates_of_alignedProducts h]
        exact List.pairwise_map.2 s.increasing
      exact List.pairwise_map.1 ordered⟩

/-- A sample times the value of `other` on its date, if there is one. -/
def commonProduct? (other : DateSeries α) (a : Sample α) : Option (Sample α) :=
  (other.valueOn? a.1).map fun factor => (a.1, a.2 * factor)

/-- The lenient product: the dates of `s` that `other` lacks are dropped. -/
def multiplyCommon (s other : DateSeries α) : DateSeries α :=
  ⟨s.samples.filterMap (commonProduct? other), by
    refine List.Pairwise.filterMap _ ?_ s.increasing
    intro a b ab c hc d hd
    obtain ⟨_, _, rfl⟩ := Option.map_eq_some_iff.1 hc
    obtain ⟨_, _, rfl⟩ := Option.map_eq_some_iff.1 hd
    exact ab⟩

end CurvePnl.DateSeries
