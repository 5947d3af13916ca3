import CurvePnl.Json.Basic

/-! # Writing JSON

Values are written on one line without blanks, or over several lines with two blanks for each
level. In strings only the quote, the backslash and the control characters are escaped.
-/

namespace CurvePnl.Json

def hexText (n : Nat) : List Char := [Nat.digitChar (n / 16 % 16), Nat.digitChar (n % 16)]

def escapeChar (c : Char) : List Char :=
  match c with
  | '"' => ['\\', '"']
  | '\\' => ['\\', '\\']
  | '\x08' => ['\\', 'b']
  | '\x0c' => ['\\', 'f']
  | '\n' => ['\\', 'n']
  | '\r' => ['\\', 'r']
  | '\t' => ['\\', 't']
  | c => if c.toNat < 32 then ['\\', 'u', '0', '0'] ++ hexText c.toNat else [c]

def quoted (s : String) : String :=
  String.ofList ('"' :: (s.toList.flatMap escapeChar ++ ['"']))

mutual

/-- A value on one line. -/
def write : Json → String
  | null => "null"
  | bool b => if b then "true" else "false"
  | number n => n.text
  | string s => quoted (s.getD "")
  | array items => "[" ++ writeItems items ++ "]"
  | object members => "\x7b" ++ writeMembers members ++ "\x7d"

def writeItems : List Json → String
  | [] => ""
  | [v] => write v
  | v :: vs => write v ++ "," ++ writeItems vs

def writeMembers : List (Option String × Json) → String
  | [] => ""
  | [(name, v)] => quoted (name.getD "") ++ ":" ++ write v
  | (name, v) :: ms => quoted (name.getD "") ++ ":" ++ write v ++ "," ++ writeMembers ms

end

def indent (level : Nat) : String := String.ofList (List.replicate (2 * level) ' ')

mutual

/-- A value over several lines, from a line at some level on. -/
def writePretty (level : Nat) : Json → String
  | array [] => "[]"
  | object [] => "\x7b\x7d"
  | array items => "[\n" ++ writePrettyItems (level + 1) items ++ "\n" ++ indent level ++ "]"
  | object members =>
    "\x7b\n" ++ writePrettyMembers (level + 1) members ++ "\n" ++ indent level ++ "\x7d"
  | null => "null"
  | bool b => if b then "true" else "false"
  | number n => n.text
  | string s => quoted (s.getD "")

def writePrettyItems (level : Nat) : List Json → String
  | [] => ""
  | [v] => indent level ++ writePretty level v
  | v :: vs => indent level ++ writePretty level v ++ ",\n" ++ writePrettyItems level vs

def writePrettyMembers (level : Nat) : List (Option String × Json) → String
  | [] => ""
  | [(name, v)] => indent level ++ quoted (name.getD "") ++ ": " ++ writePretty level v
  | (name, v) :: ms =>
    indent level ++ quoted (name.getD "") ++ ": " ++ writePretty level v ++ ",\n" ++
      writePrettyMembers level ms

end

/-- A value over several lines. -/
def pretty (v : Json) : String := writePretty 0 v

end CurvePnl.Json
