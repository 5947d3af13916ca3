import CurvePnl.Currency
import CurvePnl.Curve

/-! # Sensitivities

A position has, per curve and currency, one vector of sensitivities, with one entry per node of
the curve. The bundle of them keeps the order in which curve and currency were first given.
-/

namespace CurvePnl

abbrev PositionId := String

/-- A position that pays one currency and receives another. -/
structure Position where
  id : PositionId
  pay : Currency
  receive : Currency
  deriving Repr, DecidableEq

namespace Position

def pair (p : Position) : UnorderedPair := .of p.pay p.receive

end Position

/-- The sensitivities to one curve in one currency. -/
structure SensitivityEntry (α : Type) where
  curve : CurveName
  currency : Currency
  vector : List α

/-- The sensitivities of a position. -/
structure SensitivityBundle (α : Type) where
  entries : List (SensitivityEntry α)

namespace SensitivityBundle

def empty : SensitivityBundle α := ⟨[]⟩

/-- Replaces the vector of the first entry for the curve and currency of `e`, or else adds `e` at
the end. -/
def insertEntry (e : SensitivityEntry α) : List (SensitivityEntry α) → List (SensitivityEntry α)
  | [] => [e]
  | f :: rest =>
    if f.curve = e.curve ∧ f.currency = e.currency then e :: rest
    else f :: insertEntry e rest

/-- The bundle with a vector for a curve and a currency, which replaces an earlier one. -/
def insert (b : SensitivityBundle α) (curve : CurveName) (currency : Currency)
    (vector : List α) : SensitivityBundle α :=
  ⟨insertEntry ⟨curve, currency, vector⟩ b.entries⟩

/-- The entries of a curve, in order. -/
def forCurve (b : SensitivityBundle α) (curve : CurveName) : List (SensitivityEntry α) :=
  b.entries.filter (·.curve == curve)

end SensitivityBundle

end CurvePnl
