import CurvePnl.Text.Emoji
import CurvePnl.Text.Ligature

/-! # The width of text

How many columns of a terminal a text takes. Characters add up, except where several of them are
shown as one: an emoji with what selects, colours or joins it, the two letters of a flag, a
ligature. What follows a character decides about it, so a text is measured from its end: each
character adds its columns in front of the rest, whose front tells how they go together.

For printable ASCII the width is the number of characters.
-/

namespace CurvePnl.Text

/-- The form that a variation selector asks for. -/
inductive Selector where
  | picture
  | narrow
  /-- The form of a quotation mark that is as wide as an ideograph. -/
  | wide
  deriving Repr, DecidableEq

namespace Selector

def of? (c : Char) : Option Selector :=
  if c.toNat = 0xfe0f then some picture
  else if c.toNat = 0xfe0e then some narrow
  else if c.toNat = 0xfe01 then some wide
  else none

end Selector

/-- What stands between the joiner of an emoji and the character in front, as part of what is
joined. -/
inductive JoinedPart where
  /-- Nothing yet. -/
  | start
  | keycap
  | flagLetter
  | flags (even : Bool)
  /-- The end of a tag and letters of it. -/
  | tagLetters (count : Nat)
  /-- The end of a tag, letters of it, and digits in front of them. -/
  | tagDigits (count : Nat)
  deriving Repr, DecidableEq

/-- What the front of a text shows to a character before it. -/
inductive Front where
  | plain
  | lineEnd
  | picture
  | skinTone
  | flagLetter
  | flagLetters
  /-- Part of an emoji that is joined to the one behind it. -/
  | joined (part : JoinedPart)
  | ligature (last : LigatureEnd) (linked : Bool)
  | vowel (v : KiratVowel)
  deriving Repr, DecidableEq

/-- A text as a character before it sees it: its front, and a selector in front of that. -/
structure Following where
  front : Front
  selector : Option Selector
  deriving Repr, DecidableEq

namespace JoinedPart

/-- A letter or a digit of the tag of a flag in front of its end. -/
def joinTag? (part : JoinedPart) (c : Char) : Option JoinedPart :=
  match part with
  | tagLetters count =>
    if isTagLetter c && count < 6 then some (tagLetters (count + 1))
    else if isTagDigit c && count < 5 then some (tagDigits 1)
    else none
  | tagDigits count => if isTagDigit c && count < 3 then some (tagDigits (count + 1)) else none
  | _ => none

/-- Whether the part is the tag of a flag: three letters or more, or three digits at the front. -/
def isTag : JoinedPart → Bool
  | tagLetters count => 3 ≤ count
  | tagDigits count => count = 3
  | _ => false

/-- A character in front of part of a joined emoji, if it belongs to it. An odd letter in front of
complete flags is joined to nothing, and so is all that these were. -/
def join? (part : JoinedPart) (c : Char) : Option (Int × Front) :=
  match part with
  | start =>
    if c = Text.keycap then some (0, .joined keycap)
    else if isFlagLetter c then some (1, .joined flagLetter)
    else if isSkinTone c then some (0, .skinTone)
    else if c = tagEnd then some (0, .joined (tagLetters 0))
    else if isPicture c then some (0, .picture)
    else none
  | keycap => none
  | flagLetter => if isFlagLetter c then some (-1, .joined (flags true)) else none
  | flags even =>
    if isFlagLetter c then some (if even then 3 else -1, .joined (flags !even))
    else if c = zeroWidthJoiner then some (0, .joined start)
    else none
  | tag =>
    if tag.isTag && c = blackFlag then some (0, .picture)
    else (tag.joinTag? c).map fun more => (0, .joined more)

end JoinedPart

namespace Front

/-- The front that a character makes by itself. -/
def ofChar (c : Char) : Front :=
  if isFlagLetter c then flagLetter
  else if isSkinTone c then skinTone
  else if isPicture c then picture
  else match LigatureEnd.of? c, KiratVowel.of? c with
    | some last, _ => ligature last false
    | none, some v => vowel v
    | none, none => plain

/-- A character that goes together with the front behind it: its columns and the new front. -/
def join? (front : Front) (c : Char) : Option (Int × Front) :=
  match front with
  | plain | lineEnd => none
  | picture => if c = zeroWidthJoiner then some (0, joined .start) else none
  | skinTone =>
    if hasSkin c then some (0, picture)
    else if c = zeroWidthJoiner then some (0, joined .start)
    else none
  | flagLetter => if isFlagLetter c then some (1, flagLetters) else none
  | flagLetters =>
    if isFlagLetter c then some (1, flagLetters)
    else if c = zeroWidthJoiner then some (0, joined .start)
    else none
  | joined part => part.join? c
  | ligature last linked =>
    (last.join? linked c).map fun (columns, rest) =>
      (columns, match rest with
        | some (last, linked) => ligature last linked
        | none => plain)
  | vowel v => (v.join? c).map fun (columns, rest) => (columns, rest.elim plain vowel)

/-- Whether a joined emoji begins there, which takes part of the columns of what is joined to it. -/
def isJoinedStart : Front → Bool
  | joined .start | joined .keycap => true
  | _ => false

/-- The front that a selector leaves to the character before it. A ligature goes on across it. -/
def select (front : Front) (s : Selector) : Following :=
  match front with
  | ligature last linked => ⟨ligature last linked, some s⟩
  | front => ⟨if front.isJoinedStart && s = .picture then front else plain, some s⟩

/-- The front without a selector that the character before it does not take. -/
def unselected : Front → Front
  | ligature last linked => ligature last linked
  | _ => plain

/-- The columns that a character adds in front of a text, and the front of the whole. -/
def extend (front : Front) (c : Char) : Int × Following :=
  if c.toNat ≤ 0xa0 then
    if c = '\n' then (1, ⟨lineEnd, none⟩)
    else if c = '\r' && front = lineEnd then (0, ⟨plain, none⟩)
    else (1, ⟨plain, none⟩)
  else match Selector.of? c with
    | some s => (0, front.select s)
    | none =>
      match front.join? c with
      | some (columns, front) => (columns, ⟨front, none⟩)
      | none => (columns c, ⟨ofChar c, none⟩)

end Front

/-- Whether a character is a quotation mark of which there is a narrow and a wide form. -/
def isQuotationMark (c : Char) : Bool := inRuns [(0x2018, 0x2019), (0x201c, 0x201d)] c.toNat

namespace Following

/-- Nothing. -/
def nothing : Following := ⟨.plain, none⟩

/-- The columns that a character adds in front of a text, and what the whole shows to the character
before it. -/
def extend (f : Following) (c : Char) : Int × Following :=
  match f.selector with
  | none => f.front.extend c
  | some .picture =>
    if hasTwoForms c then (if f.front.isJoinedStart then 0 else 2, ⟨.picture, none⟩)
    else f.front.unselected.extend c
  | some .narrow =>
    if hasNarrowForm c then (1, nothing) else f.front.unselected.extend c
  | some .wide =>
    if isQuotationMark c then (2, nothing) else f.front.unselected.extend c

end Following

/-- The columns of characters in a line, and what they show to a character before them. -/
def measure (cs : List Char) : Int × Following :=
  cs.foldr (fun c (total, f) => let (more, f) := f.extend c; (total + more, f)) (0, .nothing)

/-- The columns of a text on one line. -/
def width (s : String) : Nat := (measure s.toList).1.toNat

end CurvePnl.Text
