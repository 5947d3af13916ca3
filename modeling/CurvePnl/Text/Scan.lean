/-! # Reading characters from the front of a text

A scan takes characters from the front of what is left of a text, or fails. Readers of dates,
numbers and documents are scans put together from the few below.
-/

namespace CurvePnl

/-- A reader of a value from the front of the remaining characters. -/
abbrev Scan (α : Type) := StateT (List Char) Option α

namespace Scan

/-- The next character, which stays in the text. -/
def peek? : Scan (Option Char) := fun cs => some (cs.head?, cs)

/-- Takes the next character; fails at the end of the text. -/
def next : Scan Char
  | [] => none
  | c :: cs => some (c, cs)

/-- Takes exactly this character. -/
def char (c : Char) : Scan Unit
  | [] => none
  | d :: cs => if d = c then some ((), cs) else none

/-- Takes this character if it is next, and tells whether it was. -/
def char? (c : Char) : Scan Bool
  | [] => some (false, [])
  | d :: cs => if d = c then some (true, cs) else some (false, d :: cs)

/-- Takes exactly these characters. -/
def chars : List Char → Scan Unit
  | [] => pure ()
  | c :: cs => do char c; chars cs

/-- Takes exactly this text. -/
def text (s : String) : Scan Unit := chars s.toList

/-- Takes this text if the remaining characters start with it, and tells whether they did. -/
def text? (s : String) : Scan Bool := fun cs =>
  if s.toList.isPrefixOf cs then some (true, cs.drop s.length) else some (false, cs)

/-- Takes the longest run of characters of a class. -/
def takeWhile (p : Char → Bool) : Scan (List Char) := fun cs =>
  some (cs.takeWhile p, cs.dropWhile p)

/-- Takes the longest run of characters of a class, of at most `n` of them. -/
def takeUpTo (n : Nat) (p : Char → Bool) : Scan (List Char) := fun cs =>
  let taken := (cs.take n).takeWhile p
  some (taken, cs.drop taken.length)

def skipWhile (p : Char → Bool) : Scan Unit := fun cs => some ((), cs.dropWhile p)

/-- Succeeds only where the text is used up. -/
def done : Scan Unit
  | [] => some ((), [])
  | _ :: _ => none

/-- Reads the whole text, to its end. -/
def readAll (r : Scan α) (cs : List Char) : Option α :=
  ((do let a ← r; done; pure a : Scan α).run cs).map (·.1)

end Scan

end CurvePnl
