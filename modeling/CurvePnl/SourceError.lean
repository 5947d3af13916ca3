import CurvePnl.ValueError

/-! # Errors of sources

Everything that supplies data to an attribution, from market histories to curve construction, may
fail. The kind of the failure is told apart, and the rest is a text.
-/

namespace CurvePnl

/-- What kind of failure a source reports. -/
inductive SourceProblem where
  | notFound
  | unavailable
  | missingData
  | calculationFailed
  | constructionFailed
  /-- A text that breaks a rule of this library. -/
  | unreadable
  /-- A text that is no document of its format, or not of the shape that is expected. -/
  | undecodable
  | io
  | invalidInput
  | internal
  deriving Repr, DecidableEq

namespace SourceProblem

/-- The words in front of the text of an error. -/
def lead : SourceProblem → String
  | notFound => "not found: "
  | unavailable => "source not available: "
  | missingData => "missing market data: "
  | calculationFailed => "calculation failed: "
  | constructionFailed => "curve construction failed: "
  | unreadable | undecodable => "parse error: "
  | io => "IO error: "
  | invalidInput => "invalid input: "
  | internal => "internal error: "

end SourceProblem

/-- The failure of a source. -/
structure SourceError where
  problem : SourceProblem
  detail : String
  deriving Repr, DecidableEq

namespace SourceError

def message (e : SourceError) : String := e.problem.lead ++ e.detail

/-- An error of values met by a source is an invalid input. -/
def ofValueError (e : ValueError) : SourceError := ⟨.invalidInput, e.message⟩

/-- The error of a text that does not decode. -/
def cannotDecode : SourceError := ⟨.undecodable, "text does not decode"⟩

end SourceError

end CurvePnl
