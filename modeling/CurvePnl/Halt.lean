/-! # How a computation ends without a value

Most failures are reported as an error value. A few computations have no answer at all, not even
an error: a date that leaves the calendar's range, or a tenor text that cannot be cut in two.
Those abort everything that asked for them.
-/

namespace CurvePnl

/-- The end of a computation that yields no value. -/
inductive Halt (ε : Type) where
  /-- It reports an error. -/
  | failed (error : ε)
  /-- It stops at once, and so does all that asked for it. -/
  | aborted
  deriving Repr, DecidableEq

namespace Halt

/-- The same end, with its error read as another kind of error. -/
def map (f : ε → δ) : Halt ε → Halt δ
  | failed e => failed (f e)
  | aborted => aborted

/-- A value that has to exist; without it the computation aborts. -/
def orAbort : Option α → Except (Halt ε) α
  | some a => .ok a
  | none => .error .aborted

/-- An ordinary result, whose error is reported. -/
def report : Except ε α → Except (Halt ε) α
  | .ok a => .ok a
  | .error e => .error (.failed e)

end Halt

end CurvePnl
