import CurvePnl.Json.Basic

/-! # Reading JSON

The reader is strict: one value, nothing after it but blanks, no comma too many, no number or
string out of form. Where a text goes wrong, the reader still gives the part of the value in front
of that place, so that what is wrong within this part can be told first.
-/

namespace CurvePnl.Json

/-- The blanks between the tokens of a document. -/
def isBlank (c : Char) : Bool := c == ' ' || c == '\n' || c == '\t' || c == '\r'

def skipBlanks (cs : List Char) : List Char := cs.dropWhile isBlank

/-- A part of a string: a character, or a unit of 16 bits written as an escape. -/
inductive Piece where
  | char (c : Char)
  | unit (n : Nat)
  deriving Repr, DecidableEq

def hexDigit? (c : Char) : Option Nat :=
  let n := c.toNat
  if 48 ≤ n ∧ n < 58 then some (n - 48)
  else if 97 ≤ n ∧ n < 103 then some (n - 87)
  else if 65 ≤ n ∧ n < 71 then some (n - 55)
  else none

/-- The number that four hexadecimal digits write. -/
def unit? (a b c d : Char) : Option Nat := do
  return (((← hexDigit? a) * 16 + (← hexDigit? b)) * 16 + (← hexDigit? c)) * 16 + (← hexDigit? d)

/-- The character that stands for itself or a control character after a backslash. -/
def escape? : Char → Option Char
  | '"' => some '"'
  | '\\' => some '\\'
  | '/' => some '/'
  | 'b' => some '\x08'
  | 'f' => some '\x0c'
  | 'n' => some '\n'
  | 'r' => some '\r'
  | 't' => some '\t'
  | _ => none

/-- The pieces of a string up to its closing quote, and what follows the quote. -/
def readPieces : List Char → Option (List Piece × List Char)
  | [] => none
  | '"' :: cs => some ([], cs)
  | '\\' :: 'u' :: a :: b :: c :: d :: cs => do
    let n ← unit? a b c d
    let (ps, rest) ← readPieces cs
    return (.unit n :: ps, rest)
  | '\\' :: e :: cs => do
    let c ← escape? e
    let (ps, rest) ← readPieces cs
    return (.char c :: ps, rest)
  | c :: cs =>
    if c.toNat < 32 then none
    else do
      let (ps, rest) ← readPieces cs
      return (.char c :: ps, rest)

/-- The characters of a string: a high and a low surrogate make one, and neither stands alone. -/
def joinPieces : List Piece → Option (List Char)
  | [] => some []
  | .char c :: ps => (joinPieces ps).map (c :: ·)
  | .unit n :: ps =>
    if 0xd800 ≤ n ∧ n < 0xdc00 then
      match ps with
      | .unit m :: ps =>
        if 0xdc00 ≤ m ∧ m < 0xe000 then
          (joinPieces ps).map (Char.ofNat (0x10000 + (n - 0xd800) * 0x400 + (m - 0xdc00)) :: ·)
        else none
      | _ => none
    else if 0xdc00 ≤ n ∧ n < 0xe000 then none
    else (joinPieces ps).map (Char.ofNat n :: ·)

/-- The string after an opening quote, and what follows it. -/
def readString (cs : List Char) : Option (Option String × List Char) :=
  (readPieces cs).map fun (ps, rest) => ((joinPieces ps).map String.ofList, rest)

/-- At least one digit. -/
def readDigits (cs : List Char) : Option (List Digit × List Char) :=
  match Digit.readAll cs with
  | ([], _) => none
  | (ds, rest) => some (ds, rest)

/-- The digits before the point: a zero stands alone. -/
def readWhole : List Char → Option (List Digit × List Char)
  | '0' :: cs =>
    match cs.head? with
    | some c => if (Digit.ofChar? c).isSome then none else some ([.zero], cs)
    | none => some ([.zero], cs)
  | cs => readDigits cs

/-- The digits after the point, if there is one. -/
def readFraction : List Char → Option (List Digit × List Char)
  | '.' :: cs => readDigits cs
  | cs => some ([], cs)

def readExponent (cs : List Char) : Option (Option (Option Sign × List Digit) × List Char) :=
  match cs with
  | c :: rest =>
    if c = 'e' ∨ c = 'E' then do
      let (sign, rest) := match rest with
        | '+' :: rest => (some Sign.plus, rest)
        | '-' :: rest => (some Sign.minus, rest)
        | rest => (none, rest)
      let (ds, rest) ← readDigits rest
      return (some (sign, ds), rest)
    else some (none, cs)
  | [] => some (none, cs)

/-- A number in its written form. -/
def readNumeral (cs : List Char) : Option (Numeral × List Char) := do
  let (negative, cs) := match cs with
    | '-' :: cs => (true, cs)
    | cs => (false, cs)
  let (whole, cs) ← readWhole cs
  let (fraction, cs) ← readFraction cs
  let (exponent, cs) ← readExponent cs
  return (⟨negative, whole, fraction, exponent⟩, cs)

/-- A value that contains no others, and what follows it. -/
def readScalar : List Char → Option (Json × List Char)
  | 'n' :: 'u' :: 'l' :: 'l' :: cs => some (null, cs)
  | 't' :: 'r' :: 'u' :: 'e' :: cs => some (bool true, cs)
  | 'f' :: 'a' :: 'l' :: 's' :: 'e' :: cs => some (bool false, cs)
  | '"' :: cs => (readString cs).map fun (s, cs) => (string s, cs)
  | cs => (readNumeral cs).map fun (n, cs) => (number n, cs)

mutual

/-- The part of a value that can be read, if any, and what follows it if it is complete. -/
def readValue : Nat → List Char → Option Json × Option (List Char)
  | 0, _ => (none, none)
  | fuel + 1, cs =>
    match skipBlanks cs with
    | '[' :: cs =>
      match skipBlanks cs with
      | ']' :: cs => (some (array []), some cs)
      | cs => let (items, rest) := readItems fuel cs; (some (array items), rest)
    | '{' :: cs =>
      match skipBlanks cs with
      | '}' :: cs => (some (object []), some cs)
      | cs => let (members, rest) := readMembers fuel cs; (some (object members), rest)
    | cs =>
      match readScalar cs with
      | some (v, cs) => (some v, some cs)
      | none => (none, none)

/-- The items of an array from the first or from one after a comma. -/
def readItems : Nat → List Char → List Json × Option (List Char)
  | 0, _ => ([], none)
  | fuel + 1, cs =>
    match readValue fuel cs with
    | (v, none) => (v.toList, none)
    | (v, some cs) =>
      match skipBlanks cs with
      | ',' :: cs => let (items, rest) := readItems fuel cs; (v.toList ++ items, rest)
      | ']' :: cs => (v.toList, some cs)
      | _ => (v.toList, none)

/-- The members of an object from the first or from one after a comma. -/
def readMembers : Nat → List Char → List (Option String × Json) × Option (List Char)
  | 0, _ => ([], none)
  | fuel + 1, cs =>
    match skipBlanks cs with
    | '"' :: cs =>
      match readString cs with
      | none => ([], none)
      | some (name, cs) =>
        match skipBlanks cs with
        | ':' :: cs =>
          match readValue fuel cs with
          | (v, none) => (v.toList.map (name, ·), none)
          | (v, some cs) =>
            match skipBlanks cs with
            | ',' :: cs =>
              let (members, rest) := readMembers fuel cs
              (v.toList.map (name, ·) ++ members, rest)
            | '}' :: cs => (v.toList.map (name, ·), some cs)
            | _ => (v.toList.map (name, ·), none)
        | _ => ([], none)
    | _ => ([], none)

end

/-- What can be read of a text, and whether the text is one whole value. -/
def readText (s : String) : Option Json × Bool :=
  let cs := s.toList
  match readValue (2 * cs.length + 2) cs with
  | (v, some rest) => (v, (skipBlanks rest).isEmpty)
  | (v, none) => (v, false)

/-- The value that a text writes. -/
def parse? (s : String) : Option Json :=
  match readText s with
  | (v, true) => v
  | (_, false) => none

end CurvePnl.Json
