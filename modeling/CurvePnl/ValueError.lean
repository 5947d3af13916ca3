import CurvePnl.Date.Basic

/-! # Errors of values

What can be wrong with a date, a window, a currency, a tenor or a series, and how it is told.
-/

namespace CurvePnl

/-- What is wrong with the text of a tenor. -/
inductive TenorFault where
  | tooShort
  | badNumber (number : List Char)
  | badUnit (unit : Char)
  deriving Repr, DecidableEq

namespace TenorFault

def message : TenorFault → String
  | tooShort => "expected <number><unit>"
  | badNumber number => "invalid number '" ++ String.ofList number ++ "'"
  | badUnit unit => "invalid unit '" ++ String.ofList [unit] ++ "'"

end TenorFault

/-- Two lists that have to be of one length. -/
inductive Parallel where
  | datesAndValues
  | keysAndLabels
  | keysAndColumns
  deriving Repr, DecidableEq

namespace Parallel

def text : Parallel → String
  | datesAndValues => "series dates/values"
  | keysAndLabels => "matrix keys/labels"
  | keysAndColumns => "matrix keys/series"

end Parallel

/-- Why a value cannot be built or two values cannot be combined. -/
inductive ValueError where
  /-- The calendar has no such day, or not within its range of years. -/
  | noSuchDay (day : Civil)
  /-- The text writes no date. -/
  | unreadableDate (text : String)
  /-- A window that starts after its end. -/
  | reversedWindow (first last : Date)
  /-- The text names no known currency. -/
  | unknownCurrency (text : String)
  /-- The text writes no tenor. -/
  | unreadableTenor (text : String) (fault : TenorFault)
  /-- A series whose dates do not increase. -/
  | unorderedSeries (previous next : Date)
  /-- Lists of different length where one length is needed. -/
  | lengthMismatch (lists : Parallel) (left right : Nat)
  /-- A sample whose date the other series lacks. -/
  | misaligned (date : Date) (context : String)
  /-- A zero that would have to be inverted. -/
  | zeroSample (date : Date)
  deriving DecidableEq

namespace ValueError

def message : ValueError → String
  | noSuchDay day =>
    "Invalid date: " ++ toString day.year ++ "-" ++ Digit.padded 2 day.month ++ "-" ++
      Digit.padded 2 day.day
  | unreadableDate text => "Invalid date: Cannot parse: " ++ text
  | reversedWindow first last =>
    "Invalid date window: start " ++ first.text ++ " is after end " ++ last.text
  | unknownCurrency text => "Invalid currency: " ++ text
  | unreadableTenor text fault => "Invalid tenor '" ++ text ++ "': " ++ fault.message
  | unorderedSeries previous next =>
    "Series dates must be strictly increasing: " ++ previous.text ++ " followed by " ++ next.text
  | lengthMismatch lists left right =>
    "Length mismatch in " ++ lists.text ++ ": " ++ toString left ++ " vs " ++ toString right
  | misaligned date context =>
    "Series misaligned: no sample on " ++ date.text ++ " in " ++ context
  | zeroSample date => "Mathematical error: cannot invert zero sample on " ++ date.text

end ValueError

namespace Date

/-- The date of a year, a month and a day. -/
def ofCivil (c : Civil) : Except ValueError Date :=
  match ofCivil? c with
  | some d => .ok d
  | none => .error (.noSuchDay c)

end Date

end CurvePnl
