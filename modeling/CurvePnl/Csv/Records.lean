import CurvePnl.Csv.Reader
import CurvePnl.Decimal.Cell
import CurvePnl.Json.Decode

/-! # Records of comma-separated text

The first record names the columns, and every other record decodes like an object whose members
are texts: columns stand in any order, others beside them do not matter, and no known column may
stand twice. If the names themselves are no text, the columns count in their declared order.
Decoding goes from record to record and ends at the first that is at fault.
-/

namespace CurvePnl.Csv

/-- The records decoded before the text ended, or before the fault. -/
structure Records (ρ : Type) where
  good : List ρ
  fault : Option (Halt Unit)

namespace Records

/-- No record at all, and a fault if there is one. -/
def none (fault : Option (Halt Unit)) : Records ρ := ⟨[], fault⟩

def cons (r : ρ) (rs : Records ρ) : Records ρ := { rs with good := r :: rs.good }

end Records

def fieldText? (f : RawField) : Option String := String.fromUTF8? ⟨f.toArray⟩

/-- A record as texts, if all of them are. -/
def texts? (r : RawRecord) : Option (List String) := r.mapM fieldText?

/-- A record as a value to decode: under the names of its columns, or in their declared order. -/
def value (names : Option (List String)) (columns : Nat) (cells : List String) : Json :=
  match names with
  | some names => .object (names.zip cells |>.map fun (name, cell) => (some name, .text cell))
  | none => .array ((cells.take columns).map .text)

/-- Decodes records of a given width, which have a number of known columns. -/
def decodeAll (width columns : Nat) (names : Option (List String)) (decode : Json → Decoded ρ) :
    List RawRecord → Records ρ
  | [] => .none none
  | r :: rest =>
    match if r.length = width then texts? r else none with
    | none => .none (some (.failed ()))
    | some cells =>
      match decode (value names columns cells) with
      | .error fault => .none (some fault)
      | .ok a => (decodeAll width columns names decode rest).cons a

/-- Decodes a text with a header. -/
def decode (columns : Nat) (decode : Json → Decoded ρ) (bytes : List UInt8) : Records ρ :=
  match split bytes with
  | [] => .none none
  | header :: rest => decodeAll header.length columns (texts? header) decode rest

/-- A number in a cell. -/
def number (v : Json) : Decoded Float := do Decode.ofOption (Cell.number? (← Decode.text v))

end CurvePnl.Csv
