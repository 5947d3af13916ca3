import CurvePnl.Date.Civil
import CurvePnl.Json.Reader
import CurvePnl.Text.Scan
import CurvePnl.Toml.Basic

/-! # Reading TOML

Version 1.0 of the format. Line ends are made one character before anything else is read, and a
carriage return that is left over is allowed nowhere.
-/

namespace CurvePnl.Toml

/-- Every line end as a line feed. -/
def joinLineEnds : List Char → List Char
  | '\r' :: '\n' :: cs => '\n' :: joinLineEnds cs
  | c :: cs => c :: joinLineEnds cs
  | [] => []

/-- A blank within a line. -/
def isBlank (c : Char) : Bool := c == ' ' || c == '\t'

/-- A character that may stand in a comment and, but for quotes and backslashes, in a string. -/
def isPlain (c : Char) : Bool := c == '\t' || (32 ≤ c.toNat && c.toNat != 127)

def skipBlanks : Scan Unit := Scan.skipWhile isBlank

/-- Skips a comment, if there is one, and the end of the line. -/
def endLine : Scan Unit := do
  skipBlanks
  if ← Scan.char? '#' then Scan.skipWhile isPlain
  match ← Scan.peek? with
  | none => return
  | some _ => Scan.char '\n'

/-- Skips blanks, line ends and comments within an array; a comment has to end. -/
def skipGap (inComment : Bool) : Scan Unit
  | [] => if inComment then none else some ((), [])
  | c :: cs =>
    if inComment then
      if c = '\n' then skipGap false cs else if isPlain c then skipGap true cs else none
    else if c = '#' then skipGap true cs
    else if isBlank c ∨ c = '\n' then skipGap false cs
    else some ((), c :: cs)

def escape? : Char → Option Char
  | 'b' => some '\x08'
  | 't' => some '\t'
  | 'n' => some '\n'
  | 'f' => some '\x0c'
  | 'r' => some '\r'
  | '"' => some '"'
  | '\\' => some '\\'
  | _ => none

/-- The character with a number that is no surrogate. -/
def scalar? (n : Nat) : Option Char :=
  if n.isValidChar then some (Char.ofNat n) else none

/-- A string on one line, up to its closing quote. -/
def readBasic : List Char → Option (List Char × List Char)
  | [] => none
  | '"' :: cs => some ([], cs)
  | '\\' :: 'u' :: a :: b :: c :: d :: cs => do
    let x ← scalar? (← Json.unit? a b c d)
    let (s, rest) ← readBasic cs
    return (x :: s, rest)
  | '\\' :: 'U' :: a :: b :: c :: d :: e :: f :: g :: h :: cs => do
    let x ← scalar? ((← Json.unit? a b c d) * 0x10000 + (← Json.unit? e f g h))
    let (s, rest) ← readBasic cs
    return (x :: s, rest)
  | '\\' :: e :: cs => do
    let x ← escape? e
    let (s, rest) ← readBasic cs
    return (x :: s, rest)
  | c :: cs =>
    if isPlain c then do
      let (s, rest) ← readBasic cs
      return (c :: s, rest)
    else none

def readLiteral (cs : List Char) : Option (List Char × List Char) :=
  match cs.span fun c => isPlain c && c != '\'' with
  | (s, '\'' :: rest) => some (s, rest)
  | _ => none

/-- What a backslash at the end of a line asks for: the rest of the line must be blank, and then
everything up to the next character that is no blank and no line end is left out. -/
inductive Continuation where
  | none
  | toLineEnd
  | toText
  deriving Repr, DecidableEq

/-- A string of several lines up to its three closing quotes, before which two more may stand. -/
def readLines (mode : Continuation) : List Char → Option (List Char × List Char)
  | [] => Option.none
  | c :: cs =>
    if mode = .toLineEnd then
      if c = '\n' then readLines .toText cs
      else if isBlank c then readLines .toLineEnd cs
      else Option.none
    else if mode = .toText ∧ (c = '\n' ∨ isBlank c) then readLines .toText cs
    else
      match c, cs with
      | '"', '"' :: '"' :: '"' :: '"' :: cs => some (['"', '"'], cs)
      | '"', '"' :: '"' :: '"' :: cs => some (['"'], cs)
      | '"', '"' :: '"' :: cs => some ([], cs)
      | '\\', 'u' :: a :: b :: c :: d :: cs => do
        let x ← scalar? (← Json.unit? a b c d)
        let (s, rest) ← readLines .none cs
        return (x :: s, rest)
      | '\\', 'U' :: a :: b :: c :: d :: e :: f :: g :: h :: cs => do
        let x ← scalar? ((← Json.unit? a b c d) * 0x10000 + (← Json.unit? e f g h))
        let (s, rest) ← readLines .none cs
        return (x :: s, rest)
      | '\\', e :: cs =>
        if e = '\n' then readLines .toText cs
        else if isBlank e then readLines .toLineEnd cs
        else do
          let x ← escape? e
          let (s, rest) ← readLines .none cs
          return (x :: s, rest)
      | c, cs =>
        if c != '\\' && (isPlain c || c = '\n') then do
          let (s, rest) ← readLines .none cs
          return (c :: s, rest)
        else Option.none

/-- A literal string of several lines, with its quotes as above. -/
def readLiteralLines : List Char → Option (List Char × List Char)
  | [] => none
  | '\'' :: '\'' :: '\'' :: '\'' :: '\'' :: cs => some (['\'', '\''], cs)
  | '\'' :: '\'' :: '\'' :: '\'' :: cs => some (['\''], cs)
  | '\'' :: '\'' :: '\'' :: cs => some ([], cs)
  | c :: cs =>
    if isPlain c || c = '\n' then do
      let (s, rest) ← readLiteralLines cs
      return (c :: s, rest)
    else none

/-- Leaves out a line end right after the opening quotes. -/
def dropLineEnd : List Char → List Char
  | '\n' :: cs => cs
  | cs => cs

/-- A string on one line in either kind of quotes. -/
def scanKeyString : Scan String
  | '"' :: cs => (readBasic cs).map fun (s, rest) => (String.ofList s, rest)
  | '\'' :: cs => (readLiteral cs).map fun (s, rest) => (String.ofList s, rest)
  | _ => none

def scanString : Scan String
  | '"' :: '"' :: '"' :: cs =>
    (readLines .none (dropLineEnd cs)).map fun (s, rest) => (String.ofList s, rest)
  | '\'' :: '\'' :: '\'' :: cs =>
    (readLiteralLines (dropLineEnd cs)).map fun (s, rest) => (String.ofList s, rest)
  | cs => scanKeyString cs

def isKeyChar (c : Char) : Bool := c.isAlphanum || c == '_' || c == '-'

def scanSimpleKey : Scan String := do
  match ← Scan.peek? with
  | some '"' | some '\'' => scanKeyString
  | _ =>
    let cs ← Scan.takeWhile isKeyChar
    if cs.isEmpty then failure else return String.ofList cs

/-- The most keys of a dotted key, and the most arrays and tables in one another. -/
def depthLimit : Nat := 79

/-- A dotted key of at most `n` parts, blanks around each of them allowed. -/
def scanKey : Nat → Scan (List String)
  | 0 => failure
  | n + 1 => do
    skipBlanks
    let key ← scanSimpleKey
    skipBlanks
    if ← Scan.char? '.' then return key :: (← scanKey n) else return [key]

/-- Digits of a class, with single underscores between them, which are left out. -/
def grouped? (p : Char → Bool) : List Char → Option (List Char)
  | [] => none
  | [c] => if p c then some [c] else none
  | c :: '_' :: cs => if p c then (grouped? p cs).map (c :: ·) else none
  | c :: cs => if p c then (grouped? p cs).map (c :: ·) else none

/-- The digits of a decimal number without leading zeros. -/
def whole? (cs : List Char) : Option (List Digit) :=
  match cs with
  | '0' :: _ :: _ => none
  | cs => (grouped? Char.isDigit cs).map fun cs => (Digit.readAll cs).1

def digits? (cs : List Char) : Option (List Digit) :=
  (grouped? Char.isDigit cs).map fun cs => (Digit.readAll cs).1

def splitSign : List Char → Option Sign × List Char
  | '+' :: cs => (some .plus, cs)
  | '-' :: cs => (some .minus, cs)
  | cs => (none, cs)

/-- A number of 64 bits in another base, written after `0x`, `0o` or `0b`. -/
def based? (base : Nat) (cs : List Char) : Option Toml := do
  let digit? (c : Char) : Option Nat := (Json.hexDigit? c).filter (· < base)
  let cs ← grouped? (fun c => (digit? c).isSome) cs
  let n := (cs.filterMap digit?).foldl (fun n d => base * n + d) 0
  if n < Nat.pow 2 63 then return integer n else none

/-- An exponent up to the end, the letter left out. -/
def exponent? (cs : List Char) : Option (Option Sign × List Digit) := do
  let (sign, cs) := splitSign cs
  return (sign, ← digits? cs)

/-- A decimal number. Whole numbers have 64 bits, and no number is as large as infinity. -/
def decimal? (cs : List Char) : Option Toml := do
  let (sign, cs) := splitSign cs
  let negative := sign == some .minus
  let isMark (c : Char) : Bool := c == 'e' || c == 'E'
  let (front, rest) := cs.span (!isMark ·)
  let exponent ← match rest with
    | [] => some none
    | _ :: rest => (exponent? rest).map some
  match front.span (· != '.'), exponent with
  | (digits, []), none =>
    let n : Int := Digit.toNat (← whole? digits)
    let n := if negative then -n else n
    if Int64.minValue.toInt ≤ n ∧ n ≤ Int64.maxValue.toInt then return integer n else none
  | (digits, point), exponent =>
    let whole ← whole? digits
    let fraction ← match point with
      | [] => some []
      | _ :: digits => digits? digits
    let n : Numeral := ⟨negative, whole, fraction, exponent⟩
    if n.nearest.isInf && !negative then none else return float n

/-- Exactly two digits, with a number up to `most`. -/
def scanTwo (most : Nat) : Scan Nat := do
  let cs ← Scan.takeUpTo 2 Char.isDigit
  let n := Digit.toNat (Digit.readAll cs).1
  if cs.length = 2 ∧ n ≤ most then return n else failure

/-- A day of the calendar with four digits for its year. -/
def scanDate : Scan Unit := do
  let year ← Scan.takeUpTo 4 Char.isDigit
  if year.length ≠ 4 then failure
  Scan.char '-'
  let month ← scanTwo 12
  Scan.char '-'
  let day ← scanTwo 31
  let year := Digit.toNat (Digit.readAll year).1
  if (Civil.mk year month day).Valid then return else failure

def scanTime : Scan Unit := do
  let _ ← scanTwo 23
  Scan.char ':'
  let _ ← scanTwo 59
  Scan.char ':'
  let _ ← scanTwo 60
  if ← Scan.char? '.' then
    let cs ← Scan.takeWhile Char.isDigit
    if cs.isEmpty then failure

/-- The offset of a time, if there is one. -/
def scanOffset : Scan Unit := do
  match ← Scan.peek? with
  | some 'Z' | some 'z' => let _ ← Scan.next
  | some '+' | some '-' =>
    let _ ← Scan.next
    let _ ← scanTwo 23
    Scan.char ':'
    let _ ← scanTwo 59
  | _ => return

def isDate (cs : List Char) : Bool := (Scan.readAll scanDate cs).isSome

def isDateTime (cs : List Char) : Bool :=
  let dateTime : Scan Unit := do
    scanDate
    let c ← Scan.next
    if c != 'T' && c != 't' then failure
    scanTime
    scanOffset
  (Scan.readAll dateTime cs).isSome

def isTime (cs : List Char) : Bool := (Scan.readAll scanTime cs).isSome

def isTimeWithOffset (cs : List Char) : Bool :=
  let time : Scan Unit := do scanTime; scanOffset
  (Scan.readAll time cs).isSome

/-- A character of a number, a truth value, a date or a time. -/
def isTokenChar (c : Char) : Bool :=
  c.isAlphanum || c == '_' || c == '+' || c == '-' || c == '.' || c == ':'

/-- The value of a token that is no date before a time. -/
def token? (cs : List Char) : Option Toml :=
  let s := String.ofList cs
  if s = "true" then some (boolean true)
  else if s = "false" then some (boolean false)
  else if ["inf", "+inf", "-inf", "nan", "+nan", "-nan"].contains s then some (special s)
  else if isDate cs || isDateTime cs || isTime cs then some (dateTime s)
  else
    match cs with
    | '0' :: 'x' :: cs => based? 16 cs
    | '0' :: 'o' :: cs => based? 8 cs
    | '0' :: 'b' :: cs => based? 2 cs
    | cs => decimal? cs

/-- A number, a truth value, a date or a time; a blank may stand between a date and a time. -/
def scanToken : Scan Toml := do
  let cs ← Scan.takeWhile isTokenChar
  let rest ← get
  match isDate cs, rest with
  | true, ' ' :: a :: b :: ':' :: _ =>
    if a.isDigit && b.isDigit then
      Scan.char ' '
      let time ← Scan.takeWhile isTokenChar
      if isTimeWithOffset time then
        return dateTime (String.ofList (cs ++ ' ' :: time))
      else failure
    else failure
  | _, _ =>
    match token? cs with
    | some v => return v
    | none => failure

/-- The items of an array after its bracket, or after a comma in it. -/
def scanItems (item : Scan Toml) : Nat → Scan (List Toml)
  | 0 => failure
  | fuel + 1 => do
    skipGap false
    if ← Scan.char? ']' then return []
    let v ← item
    skipGap false
    if ← Scan.char? ',' then return v :: (← scanItems item fuel)
    Scan.char ']'
    return [v]

/-- The entries of a table in braces after its brace, or after a comma in it. -/
def scanEntries (value : Scan Toml) (entries : List (String × Toml)) :
    Nat → Scan (List (String × Toml))
  | 0 => failure
  | fuel + 1 => do
    let path ← scanKey depthLimit
    Scan.char '='
    skipBlanks
    let v ← value
    skipBlanks
    match put true entries path.dropLast (path.getLastD "") v with
    | none => failure
    | some entries =>
      if ← Scan.char? ',' then scanEntries value entries fuel
      else
        Scan.char '}'
        return entries

/-- The number of characters left. -/
def remaining : Scan Nat := do return (← get).length

/-- A value with at most `depth` arrays and tables in one another. -/
def scanValue (depth : Nat) : Scan Toml := do
  match ← Scan.peek?, depth with
  | some '"', _ | some '\'', _ => return string (← scanString)
  | some '[', depth + 1 =>
    Scan.char '['
    return array (← scanItems (scanValue depth) (← remaining))
  | some '{', depth + 1 =>
    Scan.char '{'
    skipBlanks
    if ← Scan.char? '}' then return table .braces []
    return table .braces (← scanEntries (scanValue depth) [] (← remaining))
  | _, _ => scanToken

def scanStatement : Scan Statement := do
  if ← Scan.text? "[[" then
    let path ← scanKey depthLimit
    Scan.text "]]"
    endLine
    return .element path
  else if ← Scan.char? '[' then
    let path ← scanKey depthLimit
    Scan.char ']'
    endLine
    return .header path
  else
    let path ← scanKey depthLimit
    Scan.char '='
    skipBlanks
    let v ← scanValue depthLimit
    endLine
    return .entry path.dropLast (path.getLastD "") v

/-- The statements of a document, lines without any left out. -/
def scanStatements : Nat → Scan (List Statement)
  | 0 => failure
  | fuel + 1 => do
    skipBlanks
    match ← Scan.peek? with
    | none => return []
    | some '#' | some '\n' => endLine; scanStatements fuel
    | some _ => return (← scanStatement) :: (← scanStatements fuel)

/-- The text without a byte order mark at its start. -/
def dropMark : List Char → List Char
  | '\ufeff' :: cs => cs
  | cs => cs

/-- The table that a document writes. -/
def parse? (s : String) : Option (List (String × Toml)) := do
  let cs := joinLineEnds (dropMark s.toList)
  build [] [] (← Scan.readAll (scanStatements (cs.length + 1)) cs)

end CurvePnl.Toml
