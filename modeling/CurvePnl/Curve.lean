import CurvePnl.SourceError
import CurvePnl.Tenor

/-! # Curves

A quoted curve is specified by its ordered nodes, each with a history of its own. An implied curve
has no quoted nodes; it is constructed for one day at a time, and a construction yields the par
rate of every tenor it reports.
-/

namespace CurvePnl

abbrev CurveName := String

abbrev NodeKey := String

abbrev ConstructionName := String

/-- A node of a quoted curve. -/
structure CurveNode where
  key : NodeKey
  maturity : Tenor
  name : Option String
  deriving Repr, DecidableEq

namespace CurveNode

/-- The name for people, or else the maturity. -/
def label (n : CurveNode) : String := n.name.getD n.maturity.text

end CurveNode

/-- The ordered nodes of a quoted curve. -/
structure CurveSpecification where
  curve : CurveName
  nodes : List CurveNode
  deriving Repr, DecidableEq

/-- What the construction of an implied curve yields for one day. -/
structure ImpliedCurve (α : Type) where
  points : List (Tenor × α)

namespace ImpliedCurve

/-- The curve of these tenors and rates, which must be equally many. -/
def new (tenors : List Tenor) (rates : List α) : Except SourceError (ImpliedCurve α) :=
  if tenors.length = rates.length then .ok ⟨tenors.zip rates⟩
  else
    .error ⟨.invalidInput,
      toString tenors.length ++ " tenors but " ++ toString rates.length ++ " par rates"⟩

def tenors (c : ImpliedCurve α) : List Tenor := c.points.map (·.1)

/-- Whether every tenor is longer than the one before. -/
def isAscending (c : ImpliedCurve α) : Bool :=
  (c.tenors.zip c.tenors.tail).all fun (a, b) => (compare a b).isLT

end ImpliedCurve

/-- How the history of a curve is found. -/
inductive CurveIdentity where
  | quoted (curve : CurveName)
  | implied (curve : CurveName) (construction : ConstructionName)
  deriving Repr, DecidableEq

namespace CurveIdentity

def name : CurveIdentity → CurveName
  | quoted curve => curve
  | implied curve _ => curve

def isImplied : CurveIdentity → Bool
  | quoted _ => false
  | implied .. => true

end CurveIdentity

end CurvePnl
