import CurvePnl.Csv.Records
import CurvePnl.SourceError

/-! # Files of data

What stands at a path, as far as a store can tell, and how a store reads it. Most stores take a
missing file for an empty one; a file that cannot be read is an error. A directory has no text, but
it passes for a file without records.
-/

namespace CurvePnl

/-- Why nothing stands at a path. -/
inductive PathFault where
  | missing
  /-- The path goes on below a file. -/
  | belowFile
  /-- The path, or a name on it, is longer than any can be. -/
  | tooLong
  /-- The path holds the character that ends a path. -/
  | holdsNul
  deriving Repr, DecidableEq

namespace PathFault

def message : PathFault → String
  | missing => "No such file or directory (os error 2)"
  | belowFile => "Not a directory (os error 20)"
  | tooLong => "File name too long (os error 36)"
  | holdsNul => "file name contained an unexpected NUL byte"

end PathFault

/-- What stands at a path. -/
inductive FileEntry where
  | absent (fault : PathFault)
  | directory
  | bytes (content : List UInt8)
  deriving Repr, DecidableEq

namespace FileEntry

def missing : FileEntry := absent .missing

def ofText (s : String) : FileEntry := bytes s.toUTF8.toList

/-- Whether nothing stands there. -/
def isMissing : FileEntry → Bool
  | absent _ => true
  | _ => false

/-- Why a file has no text. -/
inductive ReadFault where
  | absent (fault : PathFault)
  | directory
  | notText
  deriving Repr, DecidableEq

namespace ReadFault

def message : ReadFault → String
  | absent fault => fault.message
  | directory => "Is a directory (os error 21)"
  | notText => "stream did not contain valid UTF-8"

end ReadFault

/-- The text of a file. -/
def text : FileEntry → Except ReadFault String
  | absent fault => .error (.absent fault)
  | directory => .error .directory
  | bytes content =>
    match String.fromUTF8? ⟨content.toArray⟩ with
    | some s => .ok s
    | none => .error .notText

/-- The records of a comma-separated file; a directory has none. -/
def records (columns : Nat) (decode : Json → Decoded ρ) : FileEntry → Csv.Records ρ
  | absent _ | directory => .none none
  | bytes content => Csv.decode columns decode content

/-- The value of a JSON file. -/
def decoded (decode : Json → Decoded ρ) (f : FileEntry) : Except (Halt SourceError) ρ :=
  match f.text with
  | .error e => .error (.failed ⟨.io, e.message⟩)
  | .ok s =>
    match Decode.ofText decode s with
    | .ok a => .ok a
    | .error h => .error (h.map fun _ => .cannotDecode)

end FileEntry

end CurvePnl
