import CurvePnl.Attribution.Run
import CurvePnl.Csv.Writer
import CurvePnl.JsonForm
import CurvePnl.Report.TextTable

/-! # The report of an attribution

A report shows one column per curve node and the total, with one row per date of the total. A node
without a value on a date has an empty cell.
-/

namespace CurvePnl

/-- The outcome of a request as it is printed. -/
structure AttributionReport (α : Type) where
  position : PositionId
  curve : CurveIdentity
  currency : Currency
  matrix : PnlMatrix α

namespace AttributionReport

def new (request : AttributionRequest) (done : Attribution α) : AttributionReport α :=
  ⟨request.position.id, request.curve, done.currency, done.matrix⟩

/-- The header of the column of the total. -/
def totalHeader : String := "Total"

/-- The header: the date, the labels of the nodes, the total. -/
def header (r : AttributionReport α) : List String := "Date" :: (r.matrix.labels ++ [totalHeader])

section Rows

variable [Quantity α]

def total (r : AttributionReport α) : DateSeries α := r.matrix.total

/-- Whether there is no date to report. -/
def isEmpty (r : AttributionReport α) : Bool := r.total.isEmpty

/-- The series of the nodes and of the total. -/
def columns (r : AttributionReport α) : List (DateSeries α) := r.matrix.series ++ [r.total]

/-- The cell of a series on a date. -/
def cell (show? : α → String) (s : DateSeries α) (d : Date) : String :=
  match s.valueOn? d with
  | some v => show? v
  | none => ""

/-- The rows below the header. -/
def rows (r : AttributionReport α) (show? : α → String) : List (List String) :=
  r.total.dates.map fun d => d.text :: r.columns.map fun s => cell show? s d

end Rows

/-- A value with a number of places after the point, or with all its digits. -/
def valueText : Option Nat → Float → String
  | some places => fixedText places
  | none => plainText

/-- The most places after the point that a value is written with. -/
def mostPlaces : Nat := 65535

/-- The rows below the header, with values of a number of places after the point. With more places
than can be written there are none, unless there is nothing to write. -/
def rows? (r : AttributionReport Float) (places : Option Nat) : Option (List (List String)) :=
  if !r.isEmpty && places.any (mostPlaces < ·) then none else some (r.rows (valueText places))

/-- The line above the table. -/
def title (r : AttributionReport Float) : String :=
  r.position ++ " on " ++ r.curve.name ++ (if r.curve.isImplied then " [implied]" else "") ++
    " (" ++ r.currency.code ++ ")"

/-- The columns of the table: dates to the left, values with two places to the right. -/
def tableColumns (r : AttributionReport Float) : List TextColumn :=
  let dates := r.total.dates
  let value (header : String) (s : DateSeries Float) : TextColumn :=
    ⟨.right, header, dates.map (cell (valueText (some 2)) s)⟩
  ⟨.left, "Date", dates.map Date.text⟩ ::
    ((r.matrix.labels ++ [totalHeader]).zip r.columns).map fun (header, s) => value header s

def table (r : AttributionReport Float) : String :=
  "\n" ++ r.title ++ "\n" ++
    (if r.isEmpty then "No results."
      else TextTable.draw r.tableColumns r.total.size) ++ "\n"

def pointsToJson (s : DateSeries Float) : Json :=
  .array (s.samples.map fun (d, v) => .ofMembers [("date", d.toJson), ("pnl", .ofFloat v)])

def columnToJson (c : Column Float) : Json :=
  .ofMembers
    [("tenor", c.key.toJson), ("label", .text c.label), ("pnl", pointsToJson c.series)]

def toJson (r : AttributionReport Float) : Json :=
  .ofMembers
    [("position", .text r.position), ("curve", .text r.curve.name),
      ("implied", .bool r.curve.isImplied), ("currency", r.currency.toJson),
      ("buckets", .array (r.matrix.columns.map columnToJson)),
      ("total", pointsToJson r.total)]

/-- The report as printed. -/
def print (r : AttributionReport Float) : OutputFormat → String
  | .table => r.table
  | .json => r.toJson.pretty ++ "\n"
  | .csv => Csv.write (r.header :: r.rows (valueText none))

end AttributionReport

end CurvePnl
