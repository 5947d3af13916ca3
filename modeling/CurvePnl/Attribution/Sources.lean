import CurvePnl.Attribution.Journal
import CurvePnl.Context
import CurvePnl.Series.Basic

/-! # The sources of an attribution

An attribution works with whatever answers its questions. Each source is a function from a
question to an answer; the functions below put the question under a valuation date and enter it in
the journal.
-/

namespace CurvePnl

/-- The answer of a curve construction, which may cancel the work while it answers. -/
structure Construction (α : Type) where
  curve : Except SourceError (ImpliedCurve α)
  cancels : Bool

/-- Everything that an attribution asks. -/
structure Sources (α : Type) where
  /-- The quoting order of a pair. -/
  pair : UnorderedPair → Except SourceError CurrencyPair
  sensitivities : Position → Date → Except SourceError (SensitivityBundle α)
  specification : CurveName → Date → Except SourceError CurveSpecification
  nodeHistory : CurveNode → DateWindow → Except SourceError (DateSeries α)
  fxHistory : CurrencyPair → DateWindow → Except SourceError (DateSeries α)
  /-- How much output currency one unit of native currency is worth. -/
  fxRate : Currency → Currency → Date → Except SourceError α
  returns : DateSeries α → Except SourceError (DateSeries α)
  impliedCurve : ConstructionName → Date → Construction α

namespace Sources

variable {α : Type} (s : Sources α)

def askPair (pair : UnorderedPair) : Work α (Except SourceError CurrencyPair) :=
  Work.ask (.pair pair) (s.pair pair)

def askSensitivities (p : Position) (on : Date) :
    Work α (Except SourceError (SensitivityBundle α)) :=
  Work.ask (.sensitivities p.id on) (s.sensitivities p on)

def askSpecification (curve : CurveName) (on : Date) :
    Work α (Except SourceError CurveSpecification) :=
  Work.ask (.specification curve on) (s.specification curve on)

def askNodeHistory (node : CurveNode) (window : DateWindow) :
    Work α (Except SourceError (DateSeries α)) :=
  Work.ask (.nodeHistory node.key window) (s.nodeHistory node window)

def askFxHistory (pair : CurrencyPair) (window : DateWindow) :
    Work α (Except SourceError (DateSeries α)) :=
  Work.ask (.fxHistory pair window) (s.fxHistory pair window)

def askFxRate (native output : Currency) (on : Date) : Work α (Except SourceError α) :=
  Work.ask (.fxRate native output on) (s.fxRate native output on)

def askReturns (x : DateSeries α) : Work α (Except SourceError (DateSeries α)) :=
  Work.ask (.returns x.size) (s.returns x)

/-- Constructs the implied curve of a day; a construction that cancels sets the flag. -/
def askImpliedCurve (construction : ConstructionName) (day : Date) :
    Work α (Except SourceError (ImpliedCurve α)) := do
  let built := s.impliedCurve construction day
  if built.cancels then modify fun j => { j with cancelled := true }
  Work.ask (.impliedCurve construction day) built.curve

end Sources

/-- The answer of a source that has to succeed. -/
def Work.require (collaborator : Collaborator) (context : String) :
    Except SourceError β → Work α β
  | .ok b => pure b
  | .error e => Work.fail (.source collaborator context e)

end CurvePnl
