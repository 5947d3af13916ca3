/-! # Blanks around text

A blank is a character with the Unicode property White_Space. Texts that people type are
trimmed of blanks at both ends before they are read.
-/

namespace CurvePnl.Text

/-- The 25 characters of White_Space. -/
def isBlank (c : Char) : Bool :=
  ('\t' ≤ c && c ≤ '\r') || c == ' ' || c == '\u0085' || c == '\u00a0' || c == '\u1680' ||
    ('\u2000' ≤ c && c ≤ '\u200a') || c == '\u2028' || c == '\u2029' || c == '\u202f' ||
    c == '\u205f' || c == '\u3000'

def trimStart (cs : List Char) : List Char := cs.dropWhile isBlank

def trimEnd (cs : List Char) : List Char := (cs.reverse.dropWhile isBlank).reverse

/-- The characters between the first and the last that are not blank. -/
def trimmed (cs : List Char) : List Char := trimEnd (trimStart cs)

/-- The text without the blanks at its ends. -/
def trim (s : String) : String := String.ofList (trimmed s.toList)

/-- Whether nothing but blanks stands in the text. -/
def allBlank (s : String) : Bool := s.toList.all isBlank

theorem dropWhile_isBlank {cs : List Char} (solid : ∀ c ∈ cs, isBlank c = false) :
    cs.dropWhile isBlank = cs := by
  cases cs with
  | nil => rfl
  | cons c cs => simp [solid c]

/-- Nothing is trimmed off a text without blanks. -/
theorem trimmed_of_solid {cs : List Char} (solid : ∀ c ∈ cs, isBlank c = false) :
    trimmed cs = cs := by
  have reversed : ∀ c ∈ cs.reverse, isBlank c = false := by simpa using solid
  simp [trimmed, trimStart, trimEnd, dropWhile_isBlank solid, dropWhile_isBlank reversed]

end CurvePnl.Text
