import CurvePnl.Text.Blank
import CurvePnl.Text.Scan
import CurvePnl.ValueError

/-! # Dates as text

A date is read as year, month and day with hyphens between them. Each number may have blanks in
front. People may write blanks around the text; documents and files may in addition hold blanks
in front of a hyphen.
-/

namespace CurvePnl.Date

/-- Whether blanks may stand in front of a hyphen. -/
inductive Spacing where
  | tight
  | loose
  deriving Repr, DecidableEq

/-- One to `most` digits; any positive number of them if there is no such limit. -/
def scanDigits (most : Option Nat) : Scan Nat := do
  let cs ← match most with
    | some n => Scan.takeUpTo n Char.isDigit
    | none => Scan.takeWhile Char.isDigit
  if cs.isEmpty then failure else pure (Digit.toNat (Digit.readAll cs).1)

/-- A year: one to four digits, or any number of them after a sign. -/
def scanYear : Scan Int := do
  match ← Scan.peek? with
  | some '-' => Scan.char '-'; return -(← scanDigits none : Nat)
  | some '+' => Scan.char '+'; return (← scanDigits none : Nat)
  | _ => return (← scanDigits (some 4) : Nat)

def scanHyphen : Spacing → Scan Unit
  | .tight => Scan.char '-'
  | .loose => do Scan.skipWhile Text.isBlank; Scan.char '-'

/-- A hyphen and the one or two digits of a month or a day after it. -/
def scanPart (spacing : Spacing) : Scan Nat := do
  scanHyphen spacing
  Scan.skipWhile Text.isBlank
  scanDigits (some 2)

def scanCivil (spacing : Spacing) : Scan Civil := do
  Scan.skipWhile Text.isBlank
  let year ← scanYear
  let month ← scanPart spacing
  let day ← scanPart spacing
  return ⟨year, month, day⟩

/-- The date that a text writes, blanks at its ends apart. -/
def ofText? (spacing : Spacing) (s : String) : Option Date :=
  (Scan.readAll (scanCivil spacing) (Text.trimmed s.toList)).bind ofCivil?

/-- Reads a date that a person wrote. -/
def parse (s : String) : Except ValueError Date :=
  match ofText? .tight s with
  | some d => .ok d
  | none => .error (.unreadableDate s)

end CurvePnl.Date
