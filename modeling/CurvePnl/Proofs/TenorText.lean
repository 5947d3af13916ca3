import CurvePnl.JsonForm
import CurvePnl.Proofs.Digits
import CurvePnl.Proofs.WrittenStrings
import Mathlib.Data.List.Basic

/-! # Tenors as text

Without the blanks at its ends and in upper case, the text of a tenor is a number of 32 bits and the
letter of a unit. The number may have a plus sign and zeros in front; a printed tenor has neither,
so it is what is left of every text that writes the tenor.
-/

namespace CurvePnl

namespace Text

theorem upper_of_fixed {cs : List Char} (fixed : ∀ c ∈ cs, upperChar c = [c]) : upper cs = cs := by
  induction cs with
  | nil => rfl
  | cons c cs ih =>
      obtain ⟨first, others⟩ := List.forall_mem_cons.mp fixed
      rw [upper, List.flatMap_cons, first, ← upper, ih others]
      rfl

end Text

theorem TenorUnit.ofLetter?_eq_some_iff {c : Char} {u : TenorUnit} :
    ofLetter? c = some u ↔ c = u.letter := by
  constructor
  · intro h
    unfold ofLetter? at h
    split at h <;> cases h <;> rfl
  · rintro rfl
    cases u <;> rfl

namespace Tenor

/-- What is read of a text: its characters without the blanks at the ends, in upper case. -/
def bare (s : String) : List Char := Text.upper (Text.trimmed s.toList)

/-- A number of 32 bits is written with an optional plus sign and at least one digit. -/
inductive WritesCount : List Char → UInt32 → Prop where
  | mk {sign : List Char} {digits : List Digit} (plus : sign = [] ∨ sign = ['+'])
      (some : digits ≠ []) (bounded : Digit.toNat digits < UInt32.size) :
      WritesCount (sign ++ digits.map Digit.toChar) (.ofNat (Digit.toNat digits))

/-- A text writes a tenor if it is a number and the letter of the unit. -/
inductive Writes : List Char → Tenor → Prop where
  | mk {front : List Char} {t : Tenor} (count : WritesCount front t.count) :
      Writes (front ++ [t.unit.letter]) t

/-- The digits of a number, behind its sign. -/
def unsigned : List Char → List Char
  | '+' :: cs => cs
  | cs => cs

theorem unsigned_map_toChar (digits : List Digit) :
    unsigned (digits.map Digit.toChar) = digits.map Digit.toChar := by
  cases digits with
  | nil => rfl
  | cons d ds =>
      have other : d.toChar ≠ '+' := by
        revert d
        decide
      simp [unsigned, other]

theorem exists_sign (cs : List Char) :
    ∃ sign, (sign = [] ∨ sign = ['+']) ∧ cs = sign ++ unsigned cs := by
  unfold unsigned
  split
  · exact ⟨['+'], .inr rfl, rfl⟩
  · exact ⟨[], .inl rfl, rfl⟩

theorem countOfChars?_eq_some_digits {cs : List Char} {n : UInt32} :
    countOfChars? cs = some n ↔ ∃ digits : List Digit, unsigned cs = digits.map Digit.toChar ∧
      digits ≠ [] ∧ Digit.toNat digits < UInt32.size ∧ n = .ofNat (Digit.toNat digits) := by
  have unfolded : countOfChars? cs =
      if (Digit.readAll (unsigned cs)).1.isEmpty || !(Digit.readAll (unsigned cs)).2.isEmpty ||
        UInt32.size ≤ Digit.toNat (Digit.readAll (unsigned cs)).1 then none
      else some (.ofNat (Digit.toNat (Digit.readAll (unsigned cs)).1)) := rfl
  rw [unfolded]
  simp only [← Digit.readAll_eq_iff]
  obtain ⟨digits, rest⟩ := Digit.readAll (unsigned cs)
  constructor
  · intro read
    split at read
    · cases read
    next accepted =>
      cases read
      have parts : (digits ≠ [] ∧ rest = []) ∧ Digit.toNat digits < UInt32.size := by
        simpa using accepted
      exact ⟨digits, by rw [parts.1.2], parts.1.1, parts.2, rfl⟩
  · rintro ⟨_, same, some, bounded, rfl⟩
    cases same
    rw [if_neg]
    simpa [some] using bounded

theorem countOfChars?_eq_some_iff {cs : List Char} {n : UInt32} :
    countOfChars? cs = some n ↔ WritesCount cs n := by
  rw [countOfChars?_eq_some_digits]
  constructor
  · rintro ⟨digits, written, some, bounded, rfl⟩
    obtain ⟨sign, plus, spelled⟩ := exists_sign cs
    rw [spelled, written]
    exact .mk plus some bounded
  · rintro ⟨plus, some, bounded⟩
    refine ⟨_, ?_, some, bounded, rfl⟩
    rcases plus with rfl | rfl
    · exact unsigned_map_toChar _
    · rfl

theorem parse_of_nil {s : String} (nothing : bare s = []) :
    parse s = .error (.failed (.unreadableTenor s .tooShort)) := by
  rw [parse, ← bare, nothing]
  rfl

theorem parse_of_concat {s : String} {front : List Char} {last : Char}
    (cut : bare s = front ++ [last]) :
    parse s =
      if 1 < last.utf8Size then .error .aborted
      else if front.isEmpty then .error (.failed (.unreadableTenor s .tooShort))
      else
        match countOfChars? front, TenorUnit.ofLetter? last with
        | none, _ => .error (.failed (.unreadableTenor s (.badNumber front)))
        | _, none => .error (.failed (.unreadableTenor s (.badUnit last)))
        | some count, some unit => .ok ⟨unit, count⟩ := by
  have reversed : (bare s).reverse = last :: front.reverse := by simp [cut]
  rewrite [parse, ← bare, reversed]
  dsimp only
  rewrite [List.isEmpty_reverse, List.reverse_reverse]
  rfl

/-- The texts that abort the reading: those whose last character takes several bytes. -/
def EndsWide (s : String) : Prop :=
  ∃ front last, bare s = front ++ [last] ∧ 1 < last.utf8Size

theorem parse_of_endsWide {s : String} (wide : EndsWide s) : parse s = .error .aborted := by
  obtain ⟨front, last, cut, several⟩ := wide
  rw [parse_of_concat cut, if_pos several]

/-- All other texts are a tenor or are refused, and the refusal quotes the text. -/
theorem parse_of_not_endsWide {s : String} (narrow : ¬ EndsWide s) :
    (∃ t, parse s = .ok t) ∨ ∃ fault, parse s = .error (.failed (.unreadableTenor s fault)) := by
  rcases List.eq_nil_or_concat' (bare s) with nothing | ⟨front, last, cut⟩
  · exact .inr ⟨_, parse_of_nil nothing⟩
  · have single : ¬ 1 < last.utf8Size := fun several => narrow ⟨front, last, cut, several⟩
    rw [parse_of_concat cut, if_neg single]
    split
    · exact .inr ⟨_, rfl⟩
    split
    · exact .inr ⟨_, rfl⟩
    · exact .inr ⟨_, rfl⟩
    · exact .inl ⟨_, rfl⟩

theorem parse_eq_aborted_iff {s : String} : parse s = .error .aborted ↔ EndsWide s := by
  refine ⟨fun aborted => ?_, parse_of_endsWide⟩
  by_contra narrow
  rcases parse_of_not_endsWide narrow with ⟨t, read⟩ | ⟨fault, refused⟩
  · rw [aborted] at read
    cases read
  · rw [aborted] at refused
    cases refused

theorem utf8Size_letter (u : TenorUnit) : u.letter.utf8Size = 1 := by
  cases u <;> decide

theorem parse_eq_ok_iff {s : String} {t : Tenor} : parse s = .ok t ↔ Writes (bare s) t := by
  constructor
  · intro read
    rcases List.eq_nil_or_concat' (bare s) with nothing | ⟨front, last, cut⟩
    · rw [parse_of_nil nothing] at read
      cases read
    · rw [parse_of_concat cut] at read
      split at read
      · cases read
      split at read
      · cases read
      split at read
      · cases read
      · cases read
      next count unit counted named =>
        cases read
        rw [cut, TenorUnit.ofLetter?_eq_some_iff.mp named]
        exact Writes.mk (t := ⟨unit, count⟩) (countOfChars?_eq_some_iff.mp counted)
  · intro writes
    generalize cut : bare s = cs at writes
    cases writes with
    | @mk front _ count =>
        have counted := countOfChars?_eq_some_iff.mpr count
        have some : front ≠ [] := by
          rintro rfl
          cases counted
        rw [parse_of_concat cut, counted, TenorUnit.ofLetter?_eq_some_iff.mpr rfl]
        simp [utf8Size_letter, some]

theorem toList_text (t : Tenor) :
    t.text.toList = (Digit.ofNat t.count.toNat).map Digit.toChar ++ [t.unit.letter] := by
  simp [text, Digit.text]

theorem solid_of_mem_text {t : Tenor} {c : Char} (member : c ∈ t.text.toList) :
    Text.isBlank c = false ∧ Text.upperChar c = [c] := by
  rw [toList_text, List.mem_append, List.mem_map, List.mem_singleton] at member
  rcases member with ⟨d, -, rfl⟩ | rfl
  · revert d
    decide
  · cases t.unit <;> decide

theorem bare_text (t : Tenor) : bare t.text = t.text.toList := by
  rw [bare, Text.trimmed_of_solid fun c member => (solid_of_mem_text member).1,
    Text.upper_of_fixed fun c member => (solid_of_mem_text member).2]

/-- A number is written by its digits alone, or by a sign, zeros and its digits. -/
theorem writesCount_iff {cs : List Char} {n : UInt32} :
    WritesCount cs n ↔ ∃ sign k, (sign = [] ∨ sign = ['+']) ∧
      cs = sign ++ List.replicate k '0' ++ (Digit.ofNat n.toNat).map Digit.toChar := by
  constructor
  · rintro ⟨plus, some, bounded⟩
    obtain ⟨k, spelled⟩ := Digit.exists_zeros some
    rw [UInt32.toNat_ofNat_of_lt' bounded]
    refine ⟨_, k, plus, ?_⟩
    conv_lhs => rw [spelled]
    rw [List.map_append, List.map_replicate, List.append_assoc]
    rfl
  · rintro ⟨sign, k, plus, rfl⟩
    have value : Digit.toNat (List.replicate k 0 ++ Digit.ofNat n.toNat) = n.toNat := by
      rw [Digit.toNat_zeros, Digit.toNat_ofNat]
    have some : List.replicate k 0 ++ Digit.ofNat n.toNat ≠ [] :=
      List.append_ne_nil_of_right_ne_nil _ (Digit.ofNat_ne_nil _)
    have bounded : Digit.toNat (List.replicate k 0 ++ Digit.ofNat n.toNat) < UInt32.size := by
      rw [value]
      exact n.toNat_lt
    have written := WritesCount.mk plus some bounded
    rw [value, UInt32.ofNat_toNat, List.map_append, List.map_replicate] at written
    rw [List.append_assoc]
    exact written

theorem writes_iff {cs : List Char} {t : Tenor} :
    Writes cs t ↔ ∃ sign k, (sign = [] ∨ sign = ['+']) ∧
      cs = sign ++ List.replicate k '0' ++ t.text.toList := by
  simp only [toList_text, ← List.append_assoc]
  constructor
  · rintro ⟨count⟩
    obtain ⟨sign, k, plus, rfl⟩ := writesCount_iff.mp count
    exact ⟨sign, k, plus, rfl⟩
  · rintro ⟨sign, k, plus, rfl⟩
    exact .mk (writesCount_iff.mpr ⟨sign, k, plus, rfl⟩)

theorem parse_text (t : Tenor) : parse t.text = .ok t := by
  rw [parse_eq_ok_iff, bare_text]
  exact writes_iff.mpr ⟨[], 0, .inl rfl, rfl⟩

theorem text_injective : Function.Injective text := by
  intro t u same
  have read : (.ok t : Except (Halt ValueError) Tenor) = .ok u := by
    rw [← parse_text t, same, parse_text]
  exact Except.ok.inj read

theorem ofJson_text (s : String) : ofJson (.text s) = Decode.ofHalting (parse s) :=
  rfl

theorem ofJson_toJson (t : Tenor) : ofJson t.toJson = .ok t := by
  rw [toJson, ofJson_text, parse_text]
  rfl

theorem ofText_write (t : Tenor) : Decode.ofText ofJson t.toJson.write = .ok t := by
  have written : t.toJson.write = Json.quoted t.text := rfl
  rw [written, Decode.ofText_quoted]
  exact ofJson_toJson t

/-- The texts of a tenor are its count with the letter of its unit, and apart from a sign and zeros
they are its printed text. Printed tenors read back, and no two are printed alike. -/
theorem texts_of_tenors :
    (∀ s t, parse s = .ok t ↔ Writes (bare s) t) ∧
      (∀ t, parse t.text = .ok t ∧ ofJson t.toJson = .ok t ∧
        Decode.ofText ofJson t.toJson.write = .ok t) ∧
      (∀ s t, parse s = .ok t ↔ ∃ sign k, (sign = [] ∨ sign = ['+']) ∧
        bare s = sign ++ List.replicate k '0' ++ t.text.toList) ∧
      Function.Injective text := by
  have spelled (s : String) (t : Tenor) :
      parse s = .ok t ↔ ∃ sign k, (sign = [] ∨ sign = ['+']) ∧
        bare s = sign ++ List.replicate k '0' ++ t.text.toList := by
    rw [parse_eq_ok_iff, writes_iff]
  exact ⟨fun _ _ => parse_eq_ok_iff,
    fun t => ⟨parse_text t, ofJson_toJson t, ofText_write t⟩, spelled, text_injective⟩

example : parse " +007d\u2003" = .ok ⟨.days, 7⟩ := by decide

end Tenor

end CurvePnl
