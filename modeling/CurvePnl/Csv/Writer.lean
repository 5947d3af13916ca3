/-! # Writing comma-separated text

A field is quoted if it holds a comma, a quote or a line break, and quotes in it are doubled. A
record of one empty field is written as a pair of quotes, so that its line is not empty.
-/

namespace CurvePnl.Csv

def needsQuotes (cs : List Char) : Bool :=
  cs.any fun c => c == ',' || c == '"' || c == '\n' || c == '\r'

def doubleQuotes (cs : List Char) : List Char :=
  cs.flatMap fun c => if c = '"' then ['"', '"'] else [c]

def fieldText (s : String) : String :=
  let cs := s.toList
  if needsQuotes cs then "\"" ++ String.ofList (doubleQuotes cs) ++ "\"" else s

/-- A record with its line end. -/
def recordText : List String → String
  | [""] => "\"\"\n"
  | fields => ",".intercalate (fields.map fieldText) ++ "\n"

/-- The text of records, one to a line. -/
def write (records : List (List String)) : String := String.join (records.map recordText)

end CurvePnl.Csv
