import CurvePnl.Attribution.Conversion
import CurvePnl.Attribution.Matching
import CurvePnl.Attribution.Replay
import CurvePnl.Series.Trim

/-! # Attribution of profit and loss to the nodes of a curve

What is attributed is the profit and loss of a position from the moves of one curve, over a window,
in a currency. The profit and loss of a node is the return of its history times the sensitivity to
the node. The nodes of a quoted curve have histories of their own, which are converted before the
returns are taken. The histories of an implied curve are replayed, and the profit and loss is
converted in the end. All histories begin some weeks before the window, one unless another number is
asked for.
-/

namespace CurvePnl

/-- A request for an attribution. -/
structure AttributionRequest where
  position : Position
  curve : CurveIdentity
  /-- The native currency of an implied curve. -/
  curveCurrency : Currency
  window : DateWindow
  outputCurrency : Option Currency
  mode : ConversionMode
  deriving DecidableEq

/-- The outcome of a request, with the currency that its values are in. -/
structure Attribution (α : Type) where
  matrix : PnlMatrix α
  currency : Currency

namespace Sources

variable {α : Type} [Quantity α] (s : Sources α)

/-- The returns of a history, multiplied date by date with a conversion series if there is one. -/
def convertedReturns (history : DateSeries α) (conversion : Option (DateSeries α)) :
    Work α (DateSeries α) := do
  let input ← match conversion with
    | none => pure history
    | some series => Work.ofValues (history.multiplyAligned series "conversion series")
  Work.require .returnSeries "" (← s.askReturns input)

/-- The pair, the sensitivities and the specification are all asked for, and the failures of all
of them are told. -/
def quotedInputs (request : AttributionRequest) (curve : CurveName) (on : Date) :
    Work α (SensitivityBundle α × CurveSpecification) := do
  let position := request.position
  let pair ← s.askPair position.pair
  let bundle ← s.askSensitivities position on
  let specification ← s.askSpecification curve on
  match pair, bundle, specification with
  | .ok _, .ok bundle, .ok specification => return (bundle, specification)
  | _, _, _ =>
    Work.fail (.sources
      (((SourceFailure.empty.collect .currencyPairs position.pair.text pair).collect
        .sensitivityCalculator position.id bundle).collect
        .curveSpecification curve specification))

/-- The column of one node of a quoted curve. -/
def quotedColumn (request : AttributionRequest) (curve : CurveName) (fetched : DateWindow)
    (conversion : Option (DateSeries α)) (node : CurveNode) (sensitivity : α) :
    Work α (Column α) := do
  let answer ← s.askNodeHistory node fetched
  let history ← Work.require .historicalMarketData node.key answer
  let moves ← s.convertedReturns (history.trimTo request.window.first) conversion
  Work.note (.nodeAttributed curve node.key sensitivity moves.size)
  return ⟨node.maturity, node.label, moves.scale sensitivity⟩

def attributeQuoted (request : AttributionRequest) (curve : CurveName) (on : Date)
    (weeks : Nat := DateWindow.leadWeeks) : Work α (Attribution α) := do
  let (bundle, specification) ← s.quotedInputs request curve on
  let matched ← bundle.matchCurve curve
  Work.checkCount curve specification.nodes.length matched.vector.length
  let fetched ← Work.inRange (request.window.fetched? weeks)
  let conversion ← match conversionNeeded matched.currency request.outputCurrency with
    | none => pure none
    | some output => some <$> s.conversionSeries matched.currency output fetched
  let columns ← (specification.nodes.zip matched.vector).mapM fun (node, sensitivity) =>
    s.quotedColumn request curve fetched conversion node sensitivity
  let matrix ← Work.ofValues
    (PnlMatrix.new (columns.map (·.key)) (columns.map (·.label)) (columns.map (·.series)))
  return ⟨matrix, request.outputCurrency.getD matched.currency⟩

/-- The failures of the inputs of an implied curve in one: those of the sources in the order in
which they were asked. Another failure of the conversion stands alone if it is the only one, and
otherwise becomes a last cause. -/
def impliedFailure (failure : SourceFailure) : Except AttributionError (Conversion α) →
    AttributionError
  | .ok _ => .sources failure
  | .error (.sources conversion) => .sources (failure.merge conversion)
  | .error e =>
    if failure.isEmpty then e
    else
      .sources (failure.push
        ⟨.historicalMarketData, "conversion series", ⟨.invalidInput, e.message⟩⟩)

/-- The pair, the sensitivities and the conversion are all asked for, and the failures of all of
them are told. -/
def impliedInputs (request : AttributionRequest) (on : Date)
    (weeks : Nat := DateWindow.leadWeeks) : Work α (SensitivityBundle α × Conversion α) := do
  let position := request.position
  let pair ← s.askPair position.pair
  let bundle ← s.askSensitivities position on
  let fetched ← Work.inRange (request.window.fetched? weeks)
  let conversion ← (s.pnlConversion request.curveCurrency request.outputCurrency request.mode
    fetched on).attempt
  match pair, bundle, conversion with
  | .ok _, .ok bundle, .ok conversion => return (bundle, conversion)
  | _, _, _ =>
    Work.fail (impliedFailure
      ((SourceFailure.empty.collect .currencyPairs position.pair.text pair).collect
        .sensitivityCalculator position.id bundle) conversion)

/-- One tenor of an implied curve with its profit and loss. -/
def impliedPnl (request : AttributionRequest) (curve : CurveName) (conversion : Conversion α)
    (tenor : Tenor) (rates : DateSeries α) (sensitivity : α) : Work α (Tenor × DateSeries α) := do
  let moves ← s.convertedReturns (rates.trimTo request.window.first) none
  let pnl ← conversion.apply (moves.scale sensitivity)
  Work.note (.tenorAttributed curve tenor sensitivity pnl.size)
  return (tenor, pnl)

def attributeImplied (request : AttributionRequest) (curve : CurveName)
    (construction : ConstructionName) (on : Date) (weeks : Nat := DateWindow.leadWeeks) :
    Work α (Attribution α) := do
  let (bundle, conversion) ← s.impliedInputs request on weeks
  let history ← s.replay { construction } request.window weeks
  Work.note (.historyReplayed curve history.builtDays history.skippedDays.length)
  let matched ← bundle.matchCurve curve
  let buckets := history.buckets.sortedSeries
  Work.checkCount curve buckets.length matched.vector.length
  let columns ← (buckets.zip matched.vector).mapM fun ((tenor, rates), sensitivity) =>
    s.impliedPnl request curve conversion tenor rates sensitivity
  let matrix ← Work.ofValues (PnlMatrix.keyed (columns.map (·.1)) (columns.map (·.2)))
  return ⟨matrix, request.outputCurrency.getD request.curveCurrency⟩

/-- Attributes the profit and loss of a request, with sensitivities and snapshot rates as of a
valuation date. -/
def attribution (request : AttributionRequest) (on : Date)
    (weeks : Nat := DateWindow.leadWeeks) : Work α (Attribution α) := do
  let done ← match request.curve with
    | .quoted curve => s.attributeQuoted request curve on weeks
    | .implied curve construction => s.attributeImplied request curve construction on weeks
  Work.note (.complete request.curve.name request.position.id request.curve.isImplied
    done.matrix.size done.currency request.window)
  return done

/-- Runs a request under a valuation context, with its journal and the tokens afterwards. -/
def run (request : AttributionRequest) (context : ValuationContext) (tokens : Tokens)
    (weeks : Nat := DateWindow.leadWeeks) :
    Except (Halt AttributionError) (Attribution α) × Journal α × Tokens :=
  let (result, journal) :=
    (s.attribution request context.date weeks).run.run
      (.blank (tokens.isCancelled context.token))
  (result, journal, if journal.cancelled then tokens.cancel context.token else tokens)

end Sources

end CurvePnl
