import CurvePnl.JsonForm
import CurvePnl.Store.File

/-! # The store of implied curves

Par rates of implied curves that were constructed beforehand, one curve per date, are loaded from
rows of a date, a tenor and a rate. The rates of a date keep the order of the file.
-/

namespace CurvePnl

/-- The par rate of one tenor on one date. -/
structure ParRateRow (α : Type) where
  date : Date
  tenor : Tenor
  rate : α

namespace ParRateRow

/-- A row of the columns `date`, `tenor` and `par_rate`. -/
def ofRecord (v : Json) : Decoded (ParRateRow Float) := do
  let known ← Decode.record
    [Decode.field "date" Date.ofJson, Decode.field "tenor" Tenor.ofJson,
      Decode.field "par_rate" Csv.number] v
  return {
    date := ← Decode.required known "date" Date.ofJson
    tenor := ← Decode.required known "tenor" Tenor.ofJson
    rate := ← Decode.required known "par_rate" Csv.number }

end ParRateRow

/-- The curves of a file, each date once. -/
structure ImpliedCurveStore (α : Type) where
  curves : List (Date × List (Tenor × α))

namespace ImpliedCurveStore

def empty : ImpliedCurveStore α := ⟨[]⟩

def size (s : ImpliedCurveStore α) : Nat := s.curves.length

def isEmpty (s : ImpliedCurveStore α) : Bool := s.curves.isEmpty

/-- Adds a row at the end of the curve of its date. -/
def addRow (row : ParRateRow α) : List (Date × List (Tenor × α)) → List (Date × List (Tenor × α))
  | [] => [(row.date, [(row.tenor, row.rate)])]
  | (d, points) :: rest =>
    if d = row.date then (d, points ++ [(row.tenor, row.rate)]) :: rest
    else (d, points) :: addRow row rest

/-- The curves of rows, added one after the other. -/
def ofRows (rows : List (ParRateRow α)) : ImpliedCurveStore α :=
  ⟨rows.foldl (fun curves row => addRow row curves) []⟩

/-- Loads decoded rows in place of what the store holds. The store is cleared first, so after a
fault it holds the rows in front of it. A missing file changes nothing. -/
def reload (s : ImpliedCurveStore α) (file : Option (Csv.Records (ParRateRow α))) :
    Except (Halt SourceError) Unit × ImpliedCurveStore α :=
  match file with
  | none => (.ok (), s)
  | some r =>
    let result := match r.fault with
      | none => .ok ()
      | some h => .error (h.map fun _ => .cannotDecode)
    (result, ofRows r.good)

/-- The curve of a date, whatever the construction is called. -/
def curve (s : ImpliedCurveStore α) (construction : ConstructionName) (d : Date) :
    Except SourceError (ImpliedCurve α) :=
  match s.curves.lookup d with
  | some points => .ok ⟨points⟩
  | none =>
    .error ⟨.constructionFailed, "no " ++ construction ++ " curve data for " ++ d.text⟩

end ImpliedCurveStore

namespace FileEntry

/-- The rows of a file of implied curves, if there is a file. -/
def parRateRows (f : FileEntry) : Option (Csv.Records (ParRateRow Float)) :=
  if f.isMissing then none else some (f.records 3 ParRateRow.ofRecord)

end FileEntry

end CurvePnl
