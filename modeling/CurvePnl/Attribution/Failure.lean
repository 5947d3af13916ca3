import CurvePnl.Curve
import CurvePnl.Halt

/-! # Why an attribution fails

The failures of an attribution. A failure of the sources collects the causes of several sources,
so that one run tells all that is missing.
-/

namespace CurvePnl

/-- A source that an attribution works with. -/
inductive Collaborator where
  | sensitivityCalculator
  | curveSpecification
  | currencyPairs
  | historicalMarketData
  | fxMatrix
  | returnSeries
  deriving Repr, DecidableEq

namespace Collaborator

def text : Collaborator → String
  | sensitivityCalculator => "sensitivity calculator"
  | curveSpecification => "curve specification"
  | currencyPairs => "currency pairs"
  | historicalMarketData => "historical market data"
  | fxMatrix => "fx matrix"
  | returnSeries => "return series"

end Collaborator

/-- The failure of one source, with what it was asked for. -/
structure SourceCause where
  collaborator : Collaborator
  context : String
  error : SourceError
  deriving Repr, DecidableEq

namespace SourceCause

def message (c : SourceCause) : String :=
  c.collaborator.text ++ (if c.context = "" then "" else " (" ++ c.context ++ ")") ++ ": " ++
    c.error.message

end SourceCause

/-- The causes of a failure, in the order in which the sources were asked. -/
structure SourceFailure where
  causes : List SourceCause
  deriving Repr, DecidableEq

namespace SourceFailure

def empty : SourceFailure := ⟨[]⟩

def isEmpty (f : SourceFailure) : Bool := f.causes.isEmpty

def push (f : SourceFailure) (cause : SourceCause) : SourceFailure := ⟨f.causes ++ [cause]⟩

/-- Adds a cause if the answer of a source is an error. -/
def collect (f : SourceFailure) (collaborator : Collaborator) (context : String) :
    Except SourceError β → SourceFailure
  | .ok _ => f
  | .error error => f.push ⟨collaborator, context, error⟩

/-- The causes of both. -/
def merge (f g : SourceFailure) : SourceFailure := ⟨f.causes ++ g.causes⟩

def message (f : SourceFailure) : String := "; ".intercalate (f.causes.map SourceCause.message)

end SourceFailure

/-- Why an attribution fails. -/
inductive AttributionError where
  /-- No sensitivities are registered for the curve. -/
  | missingSensitivities (curve : CurveName)
  /-- The curve has another number of nodes than of sensitivities. -/
  | countMismatch (curve : CurveName) (nodes sensitivities : Nat)
  /-- Sources failed. -/
  | sources (failure : SourceFailure)
  /-- The conversion series lacks a date of a history. -/
  | misaligned (date : Date)
  /-- A constructed curve reported tenors that do not ascend. -/
  | nodeOrder (date : Date) (tenors : List Tenor)
  /-- The work was cancelled before this date was reached. -/
  | cancelled (date : Date)
  /-- Values cannot be built or combined. -/
  | value (error : ValueError)
  deriving DecidableEq

namespace AttributionError

/-- A misaligned series within an attribution is the conversion series. -/
def ofValueError : ValueError → AttributionError
  | .misaligned date _ => misaligned date
  | e => value e

/-- The failure of a single source. -/
def source (collaborator : Collaborator) (context : String) (error : SourceError) :
    AttributionError :=
  sources (SourceFailure.empty.push ⟨collaborator, context, error⟩)

def message : AttributionError → String
  | missingSensitivities curve => "no sensitivity data for curve " ++ curve
  | countMismatch curve nodes sensitivities =>
    "curve " ++ curve ++ ": expected " ++ toString nodes ++ " sensitivities, got " ++
      toString sensitivities
  | sources failure => "upstream failure: " ++ failure.message
  | misaligned date => "conversion series has no sample on " ++ date.text
  | nodeOrder date tenors =>
    "implied curve on " ++ date.text ++ " reported tenors out of order: " ++
      ",".intercalate (tenors.map Tenor.text)
  | cancelled date => "attribution cancelled before " ++ date.text
  | value error => error.message

end AttributionError

end CurvePnl
