import CurvePnl.Attribution.Sources
import CurvePnl.MarketConvention
import CurvePnl.Series.Returns
import CurvePnl.Store.History
import CurvePnl.Store.ImpliedCurves
import CurvePnl.Store.Rates
import CurvePnl.Store.Specifications

/-! # Data sets

The five files of a directory that together supply an attribution. They are loaded in a fixed order,
and the first that fails is told by its path. Of the sensitivities no store is kept: their file holds
those of one position, as a JSON array of entries, and has to exist.
-/

namespace CurvePnl

/-- The sensitivities of a file. -/
def FileEntry.sensitivities (f : FileEntry) :
    Except (Halt SourceError) (SensitivityBundle Float) :=
  f.decoded SensitivityBundle.ofJson

/-- A file of a data set. -/
inductive DataFile where
  | sensitivities
  | specifications
  | histories
  | rates
  | impliedCurves
  deriving Repr, DecidableEq

namespace DataFile

/-- The files in the order in which they are loaded. -/
def all : List DataFile := [sensitivities, specifications, histories, rates, impliedCurves]

def name : DataFile → String
  | sensitivities => "sensitivities.json"
  | specifications => "curves.json"
  | histories => "nodes.csv"
  | rates => "fx.json"
  | impliedCurves => "implied.csv"

/-- The path of the file within a directory. -/
def path (directory : String) (f : DataFile) : String :=
  if directory.endsWith "/" then directory ++ f.name else directory ++ "/" ++ f.name

end DataFile

/-- What the files of a directory hold. -/
structure DataSet where
  sensitivities : SensitivityBundle Float
  specifications : SpecificationStore
  histories : HistoryStore Float
  rates : RateTable Float
  impliedCurves : ImpliedCurveStore Float

/-- The failure of a file, with its path. -/
structure DataFault where
  path : String
  error : SourceError
  deriving Repr, DecidableEq

namespace DataSet

/-- A loaded file, whose failure is told with the path of the file. -/
def loaded (directory : String) (f : DataFile) :
    Except (Halt SourceError) β → Except (Halt DataFault) β
  | .ok b => .ok b
  | .error h => .error (h.map fun e => ⟨f.path directory, e⟩)

/-- What a store holds after loading a file. -/
def reloaded : Except (Halt SourceError) Unit × σ → Except (Halt SourceError) σ
  | (.ok (), store) => .ok store
  | (.error h, _) => .error h

/-- Loads the files of a directory. -/
def load (entry : String → FileEntry) (directory : String) : Except (Halt DataFault) DataSet := do
  let file (f : DataFile) : FileEntry := entry (f.path directory)
  let sensitivities ← loaded directory .sensitivities (file .sensitivities).sensitivities
  let specifications ← loaded directory .specifications
    (reloaded (SpecificationStore.empty.reload (file .specifications).specifications))
  let histories ← loaded directory .histories
    (reloaded (HistoryStore.empty.reload (file .histories).historyRows))
  let rates ← loaded directory .rates (file .rates).rateTable
  let impliedCurves ← loaded directory .impliedCurves
    (reloaded (ImpliedCurveStore.empty.reload (file .impliedCurves).parRateRows))
  return { sensitivities, specifications, histories, rates, impliedCurves }

/-- The sources that answer from the files. The sensitivities are those of every position, and
pairs are quoted by market convention. -/
def sources (x : DataSet) (returns : ReturnKind) : Sources Float where
  pair := MarketConvention.pair
  sensitivities _ _ := .ok x.sensitivities
  specification curve _ := x.specifications.specification curve
  nodeHistory := x.histories.nodeHistory
  fxHistory := x.histories.fxHistory
  fxRate native output _ := x.rates.rate native output
  returns := DateSeries.returns returns
  impliedCurve construction day := ⟨x.impliedCurves.curve construction day, false⟩

end DataSet

end CurvePnl
