import CurvePnl.Text.Columns

/-! # Ligatures

Some scripts write two letters as one sign, which then takes the place of one letter. A text is
followed from its end to its start here, so a ligature is known by its last letter, until the
letters in front of it have joined or another character has stopped them.
-/

namespace CurvePnl.Text

/-- Characters without width that keep letters of Arabic apart: those whose joining type is not
Transparent. -/
def partingRuns : List (Nat × Nat) :=
  [(0x605, 0x605), (0x890, 0x891), (0x8e2, 0x8e2), (0x9be, 0x9be), (0x9d7, 0x9d7), (0xb3e, 0xb3e),
    (0xb57, 0xb57), (0xbbe, 0xbbe), (0xbd7, 0xbd7), (0xcc0, 0xcc0), (0xcc2, 0xcc2), (0xcc7, 0xcc8),
    (0xcca, 0xccb), (0xcd5, 0xcd6), (0xd3e, 0xd3e), (0xd4e, 0xd4e), (0xd57, 0xd57), (0xdcf, 0xdcf),
    (0xddf, 0xddf), (0x1160, 0x11ff), (0x1715, 0x1715), (0x1734, 0x1734), (0x180e, 0x180e),
    (0x1b35, 0x1b35), (0x1b3b, 0x1b3b), (0x1b3d, 0x1b3d), (0x1b43, 0x1b44), (0x1baa, 0x1baa),
    (0x1bf2, 0x1bf3), (0x200c, 0x200d), (0x2065, 0x2069), (0x302e, 0x302f), (0x3164, 0x3164),
    (0xa8fa, 0xa8fa), (0xa953, 0xa953), (0xa9c0, 0xa9c0), (0xd7b0, 0xd7c6), (0xd7cb, 0xd7fb),
    (0xffa0, 0xffa0), (0xfff0, 0xfff8), (0x111c0, 0x111c0), (0x111c2, 0x111c3), (0x11235, 0x11235),
    (0x1133e, 0x1133e), (0x1134d, 0x1134d), (0x11357, 0x11357), (0x113b8, 0x113b8),
    (0x113c2, 0x113c2), (0x113c5, 0x113c5), (0x113c7, 0x113c9), (0x113cf, 0x113cf),
    (0x113d1, 0x113d1), (0x114b0, 0x114b0), (0x114bd, 0x114bd), (0x115af, 0x115af),
    (0x116b6, 0x116b6), (0x11930, 0x11930), (0x1193d, 0x1193d), (0x1193f, 0x1193f),
    (0x11941, 0x11941), (0x11a84, 0x11a89), (0x11d46, 0x11d46), (0x11f02, 0x11f02),
    (0x11f41, 0x11f41), (0x16ff0, 0x16ff1), (0x1d165, 0x1d166), (0x1d16d, 0x1d172),
    (0xe0000, 0xe0000), (0xe0002, 0xe001f), (0xe0080, 0xe00ff), (0xe01f0, 0xe0fff)]

/-- Whether letters of Arabic join across a character. -/
def isTransparent (c : Char) : Bool := inRuns zeroRuns c.toNat && !inRuns partingRuns c.toNat

/-- Whether a character is a mark that shows nothing. Such marks part no letters. -/
def isSilentMark (c : Char) : Bool :=
  inRuns [(0x34f, 0x34f), (0x17b4, 0x17b5), (0x180b, 0x180d), (0x180f, 0x180f), (0xfe00, 0xfe0f),
    (0xe0100, 0xe01ef)] c.toNat

/-- The letters of Arabic whose joining group is Alef. -/
def isAlef (c : Char) : Bool :=
  inRuns [(0x622, 0x623), (0x625, 0x625), (0x627, 0x627), (0x671, 0x673), (0x675, 0x675),
    (0x773, 0x774), (0x870, 0x882)] c.toNat

/-- The letters of Arabic whose joining group is Lam. -/
def isLam (c : Char) : Bool :=
  inRuns [(0x644, 0x644), (0x6b5, 0x6b8), (0x76a, 0x76a), (0x8a6, 0x8a6), (0x8c7, 0x8c7)] c.toNat

/-- The letters of Khmer that are written below another one. -/
def isKhmerSubscript (c : Char) : Bool :=
  inRuns [(0x1780, 0x1782), (0x1784, 0x1787), (0x1789, 0x178c), (0x178e, 0x1793),
    (0x1795, 0x1798), (0x179b, 0x179d), (0x17a0, 0x17a0), (0x17a2, 0x17a2), (0x17a7, 0x17a7),
    (0x17ab, 0x17ac), (0x17af, 0x17af)] c.toNat

def isTifinaghConsonant (c : Char) : Bool := inRuns [(0x2d31, 0x2d65), (0x2d6f, 0x2d6f)] c.toNat

/-- The character that joins what stands before it and after it. -/
def zeroWidthJoiner : Char := Char.ofNat 0x200d

/-- What a ligature ends with, from its last letter on to the front. -/
inductive LigatureEnd where
  /-- Alef of Arabic, which a lam joins. -/
  | alef
  /-- Lamed of Hebrew, which a joined alef joins. -/
  | lamed
  /-- The letter ya of Buginese. -/
  | ya
  /-- The vowel i and a joined ya of Buginese, which the letter a joins. -/
  | vowelAndYa
  /-- A consonant of Tifinagh. -/
  | consonant
  /-- A consonant of Tifinagh and the joiner in front of it. -/
  | joinerAndConsonant
  /-- A tone of Lisu that combines with the tone before it. -/
  | tone
  /-- The letter i of Orkhon, which a joined ich joins. -/
  | orkhonVowel
  /-- A letter of Khmer that is written below the one before it after the sign for that. -/
  | subscript
  deriving Repr, DecidableEq

namespace LigatureEnd

/-- The ligature that a character may end. -/
def of? (c : Char) : Option LigatureEnd :=
  let n := c.toNat
  if isAlef c then some alef
  else if n = 0x5dc then some lamed
  else if n = 0x1a10 then some ya
  else if isTifinaghConsonant c then some consonant
  else if n = 0xa4fc || n = 0xa4fd then some tone
  else if n = 0x10c03 then some orkhonVowel
  else if isKhmerSubscript c then some subscript
  else none

/-- A character in front of the end of a ligature, with or without a zero width joiner between
them, if the ligature goes on: the columns that it adds, and the end that the ligature has then if
it is not complete. A letter that goes below another one gives its column back. -/
def join? (last : LigatureEnd) (joined : Bool) (c : Char) :
    Option (Int × Option (LigatureEnd × Bool)) :=
  let n := c.toNat
  match last with
  | alef =>
    if isLam c then some (0, none)
    else if isTransparent c then some (0, some (alef, joined))
    else none
  | last =>
    if c = zeroWidthJoiner then some (0, some (last, true))
    else if isSilentMark c then some (0, some (last, joined))
    else match last, joined with
      | lamed, true => if n = 0x5d0 then some (0, none) else none
      | ya, true => if n = 0x1a17 then some (0, some (vowelAndYa, false)) else none
      | vowelAndYa, _ => if n = 0x1a15 then some (0, none) else none
      | consonant, joined =>
        if n = 0x2d7f then some (1, some (joinerAndConsonant, false))
        else if joined && isTifinaghConsonant c then some (0, none)
        else none
      | joinerAndConsonant, _ => if isTifinaghConsonant c then some (-1, none) else none
      | tone, _ => if 0xa4f8 ≤ n && n ≤ 0xa4fb then some (0, none) else none
      | orkhonVowel, true => if n = 0x10c32 then some (0, none) else none
      | subscript, _ => if n = 0x17d2 then some (-1, none) else none
      | _, _ => none

end LigatureEnd

/-- A vowel of Kirat Rai at the front of a text: e, or the ai that is two of them. With the vowel
aa in front, either is one vowel, o or au. -/
inductive KiratVowel where
  | e
  | ai
  deriving Repr, DecidableEq

namespace KiratVowel

def of? (c : Char) : Option KiratVowel :=
  if c.toNat = 0x16d67 then some e else if c.toNat = 0x16d68 then some ai else none

/-- A character in front of a vowel that makes one vowel with it, or takes part of it. -/
def join? (v : KiratVowel) (c : Char) : Option (Int × Option KiratVowel) :=
  let n := c.toNat
  if n = 0x16d63 then some (0, none)
  else match v with
    | e =>
      if n = 0x16d67 then some (0, some ai)
      else if n = 0x16d68 then some (1, some e)
      else if n = 0x16d69 then some (0, none)
      else none
    | ai => none

end KiratVowel

end CurvePnl.Text
