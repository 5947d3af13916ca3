import CurvePnl.Json.Decode
import CurvePnl.Json.Writer
import Mathlib.Data.List.Basic

/-! # Strings in documents

A string that is written into a document is read back, whatever its characters. Those that would end
the string or break it are escaped, and each escape stands for one character.
-/

namespace CurvePnl

namespace Json

/-- What the reader makes of a written character: control characters without a letter of their own
are written as units. -/
def pieceOf (c : Char) : Piece :=
  if c.toNat < 32 ∧ c ∉ ['\x08', '\x0c', '\n', '\r', '\t'] then .unit c.toNat else .char c

theorem unit?_hexText {n : Nat} (h : n < 32) :
    ∃ high low, hexText n = [high, low] ∧ unit? '0' '0' high low = some n := by
  refine ⟨_, _, rfl, ?_⟩
  revert n
  decide

theorem readPieces_plain {c : Char} (quote : c ≠ '"') (backslash : c ≠ '\\')
    (plain : ¬ c.toNat < 32) (rest : List Char) :
    readPieces (c :: rest) = (readPieces rest).bind fun p => some (.char c :: p.1, p.2) := by
  rw [readPieces, if_neg plain]
  · rfl
  · exact quote
  · exact fun _ _ _ _ _ escape _ => backslash escape
  · exact fun _ _ escape _ => backslash escape

theorem readPieces_escapeChar (c : Char) (rest : List Char) :
    readPieces (escapeChar c ++ rest) =
      (readPieces rest).map fun p => (pieceOf c :: p.1, p.2) := by
  rw [Option.map_eq_bind]
  unfold escapeChar
  split
  case h_8 quote backslash b f n r t =>
    split
    next control =>
      obtain ⟨high, low, written, unit⟩ := unit?_hexText control
      have piece : pieceOf c = .unit c.toNat := if_pos ⟨control, by simp; exact ⟨b, f, n, r, t⟩⟩
      rw [written, piece]
      change (unit? '0' '0' high low).bind _ = _
      rw [unit]
      rfl
    next plain =>
      have piece : pieceOf c = .char c := if_neg fun unit => plain unit.1
      rw [piece]
      exact readPieces_plain quote backslash plain rest
  all_goals rfl

theorem joinPieces_map_pieceOf (cs : List Char) : joinPieces (cs.map pieceOf) = some cs := by
  induction cs with
  | nil => rfl
  | cons c cs ih =>
      rw [List.map_cons, pieceOf]
      split
      next control =>
        have low : ¬ (0xd800 ≤ c.toNat ∧ c.toNat < 0xdc00) := by omega
        have high : ¬ (0xdc00 ≤ c.toNat ∧ c.toNat < 0xe000) := by omega
        rw [joinPieces.eq_def]
        simp [low, high, ih, Char.ofNat_toNat]
      · simp [joinPieces, ih]

theorem readPieces_written (cs rest : List Char) :
    readPieces (cs.flatMap escapeChar ++ '"' :: rest) = some (cs.map pieceOf, rest) := by
  induction cs with
  | nil => simp [readPieces]
  | cons c cs ih => simp [readPieces_escapeChar, ih]

theorem quoted_of_plain {s : String} (plain : ∀ c ∈ s.toList, escapeChar c = [c]) :
    quoted s = "\"" ++ s ++ "\"" := by
  have written : s.toList.flatMap escapeChar = s.toList := by
    rw [List.flatMap_congr plain, List.flatMap_singleton']
  apply String.toList_injective
  simp [quoted, written]

theorem readText_quoted (s : String) : readText (quoted s) = (some (text s), true) := by
  have read : readString (s.toList.flatMap escapeChar ++ ['"']) = some (some s, []) := by
    rw [readString, readPieces_written]
    simp [joinPieces_map_pieceOf]
  simp [readText, quoted, readValue, skipBlanks, isBlank, readScalar, read]
  rfl

end Json

theorem Decode.ofText_quoted (value : Json → Decoded α) (s : String) :
    ofText value (Json.quoted s) = value (.text s) := by
  rw [ofText, Json.readText_quoted]
  change value (.text s) >>= Except.ok = value (.text s)
  exact bind_pure _

end CurvePnl
