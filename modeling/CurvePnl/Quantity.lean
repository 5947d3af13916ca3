/-! # Quantities

Sample values, sensitivities and rates are quantities: they are added, subtracted, multiplied and
divided, and a quantity can be asked whether it is zero. Everything that is computed from series
is written for any kind of quantity; a run computes with doubles, in the order written.
-/

namespace CurvePnl

/-- Numbers to compute profit and loss with. -/
class Quantity (α : Type) extends Add α, Sub α, Mul α, Div α where
  zero : α
  one : α
  isZero : α → Bool

/-- Doubles; both zeros are zero. -/
instance : Quantity Float where
  zero := 0.0
  one := 1.0
  isZero x := x == 0.0

end CurvePnl
