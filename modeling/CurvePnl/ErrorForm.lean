import CurvePnl.Config.Basic

/-! # The JSON forms of errors

An error is an object of its kind and its message. The message is left out where a text did not
decode, and what lies behind the error is added where there is more to tell.
-/

namespace CurvePnl

/-- The object of an error, with further members. -/
def errorForm (kind message : String) (more : List (String × Json)) : Json :=
  .ofMembers ([("error", .text kind), ("message", .text message)] ++ more)

/-- The object of an error without a message. -/
def bareErrorForm (kind : String) : Json := .ofMembers [("error", .text kind)]

namespace ValueError

def kind : ValueError → String
  | noSuchDay _ | unreadableDate _ => "InvalidDate"
  | reversedWindow .. => "InvalidWindow"
  | unknownCurrency _ => "InvalidCurrency"
  | unreadableTenor .. => "InvalidTenor"
  | unorderedSeries .. => "UnorderedSeries"
  | lengthMismatch .. => "LengthMismatch"
  | misaligned .. => "SeriesMisaligned"
  | zeroSample _ => "MathError"

def toJson (e : ValueError) : Json := errorForm e.kind e.message []

end ValueError

namespace SourceProblem

def all : List SourceProblem :=
  [notFound, unavailable, missingData, calculationFailed, constructionFailed, unreadable,
    undecodable, io, invalidInput, internal]

/-- The name of the kind, which does not tell why a text is at fault. -/
def kind : SourceProblem → String
  | notFound => "NotFound"
  | unavailable => "SourceNotAvailable"
  | missingData => "MissingData"
  | calculationFailed => "CalculationFailed"
  | constructionFailed => "CurveConstructionFailed"
  | unreadable | undecodable => "ParseError"
  | io => "IoError"
  | invalidInput => "InvalidInput"
  | internal => "Internal"

/-- The first problem of a kind. -/
def ofKind? (kind : String) : Option SourceProblem := all.find? (·.kind == kind)

end SourceProblem

namespace SourceError

def toJson (e : SourceError) : Json :=
  if e.problem = .undecodable then bareErrorForm e.problem.kind
  else errorForm e.problem.kind e.message []

end SourceError

namespace Collaborator

def all : List Collaborator :=
  [sensitivityCalculator, curveSpecification, currencyPairs, historicalMarketData, fxMatrix,
    returnSeries]

def name : Collaborator → String
  | sensitivityCalculator => "SensitivityCalculator"
  | curveSpecification => "CurveSpecification"
  | currencyPairs => "CurrencyPairs"
  | historicalMarketData => "HistoricalMarketData"
  | fxMatrix => "FxMatrix"
  | returnSeries => "ReturnSeries"

def ofName? (name : String) : Option Collaborator := all.find? (·.name == name)

end Collaborator

namespace SourceCause

def toJson (c : SourceCause) : Json :=
  .ofMembers
    [("collaborator", .text c.collaborator.name), ("context", .text c.context),
      ("cause", c.error.toJson)]

end SourceCause

namespace AttributionError

def kind : AttributionError → String
  | missingSensitivities _ => "MissingSensitivityData"
  | countMismatch .. => "BucketCountMismatch"
  | sources _ => "Upstream"
  | misaligned _ => "SeriesMisaligned"
  | nodeOrder .. => "NodeOrderMismatch"
  | cancelled _ => "Cancelled"
  | value _ => "Core"

/-- What lies behind the error. -/
def behind : AttributionError → List (String × Json)
  | sources failure => [("causes", .array (failure.causes.map SourceCause.toJson))]
  | value error => [("core", error.toJson)]
  | _ => []

/-- The object of the error, with further members. -/
def toJsonWith (e : AttributionError) (more : List (String × Json)) : Json :=
  errorForm e.kind e.message (e.behind ++ more)

def toJson (e : AttributionError) : Json := e.toJsonWith []

end AttributionError

namespace ConfigurationFault

def toJson (f : ConfigurationFault) : Json :=
  .ofMembers [("field", .text f.field), ("message", .text f.message)]

end ConfigurationFault

namespace ConfigurationError

def kind : ConfigurationError → String
  | unreadable .. => "Io"
  | unknownFormat _ => "UnsupportedFormat"
  | undecodable => "Deserialization"
  | invalid _ [] => "Validation"
  | invalid _ (_ :: _) => "MultipleValidationErrors"

def toJson (e : ConfigurationError) : Json :=
  match e with
  | undecodable => bareErrorForm e.kind
  | invalid first others =>
    errorForm e.kind e.message
      [("errors", .array ((first :: others).map ConfigurationFault.toJson))]
  | _ => errorForm e.kind e.message []

end ConfigurationError

end CurvePnl
