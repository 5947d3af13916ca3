import CurvePnl.JsonForm
import CurvePnl.Proofs.CalendarDates
import CurvePnl.Proofs.Digits
import CurvePnl.Proofs.WrittenStrings

/-! # Dates as text

The texts that are read as dates have a grammar: a year, a month and a day with hyphens between
them, each a run of digits with blanks allowed in front. Each scan of the reader takes a part of the
grammar, up to the place where no digit follows. What is printed for a date belongs to the grammar
in every year, so it is read back.
-/

namespace CurvePnl

@[simp] theorem Digit.isBlank_toChar (d : Digit) : Text.isBlank d.toChar = false := by
  revert d
  decide

namespace Date

def Blanks (cs : List Char) : Prop := ∀ c ∈ cs, Text.isBlank c = true

theorem blanks_nil : Blanks [] := by simp [Blanks]

/-- What may stand in front of a hyphen. -/
def Spacing.Allows : Spacing → List Char → Prop
  | .tight, gap => gap = []
  | .loose, gap => Blanks gap

/-- A number is written in digits, at least one and no more than `most` if there is such a limit. -/
inductive WritesNumber (most : Option Nat) : List Char → Nat → Prop where
  | mk {digits : List Digit} (nonempty : digits ≠ []) (short : ∀ n ∈ most, digits.length ≤ n) :
      WritesNumber most (digits.map Digit.toChar) (Digit.toNat digits)

/-- A year has up to four digits, or any number of them behind a sign. -/
inductive WritesYear : List Char → Int → Prop where
  | unsigned {cs : List Char} {n : Nat} (number : WritesNumber (some 4) cs n) : WritesYear cs n
  | positive {cs : List Char} {n : Nat} (number : WritesNumber none cs n) : WritesYear ('+' :: cs) n
  | negative {cs : List Char} {n : Nat} (number : WritesNumber none cs n) :
      WritesYear ('-' :: cs) (-n)

/-- A month or a day has one or two digits, behind a hyphen and blanks. -/
inductive WritesPart (spacing : Spacing) : List Char → Nat → Prop where
  | mk {gap blanks cs : List Char} {n : Nat} (allowed : spacing.Allows gap) (blank : Blanks blanks)
      (number : WritesNumber (some 2) cs n) :
      WritesPart spacing (gap ++ '-' :: (blanks ++ cs)) n

/-- A text writes a day as its year, month and day, with blanks in front. -/
inductive Writes (spacing : Spacing) : List Char → Civil → Prop where
  | mk {blanks ys ms ds : List Char} {year : Int} {month day : Nat} (blank : Blanks blanks)
      (years : WritesYear ys year) (months : WritesPart spacing ms month)
      (days : WritesPart spacing ds day) :
      Writes spacing (blanks ++ (ys ++ (ms ++ ds))) ⟨year, month, day⟩

/-- No character of a class stands at the front. -/
def Stops (p : Char → Bool) (rest : List Char) : Prop := ∀ c ∈ rest.head?, p c = false

theorem stops_cons {p : Char → Bool} {c : Char} (other : p c = false) (rest : List Char) :
    Stops p (c :: rest) := by
  simpa [Stops] using other

namespace Stops

variable {p : Char → Bool} {rest : List Char}

theorem take (stops : Stops p rest) (n : Nat) : Stops p (rest.take n) := by
  intro c first
  rw [List.head?_take] at first
  split at first
  · cases first
  · exact stops c first

theorem takeWhile_eq (stops : Stops p rest) : rest.takeWhile p = [] := by
  cases rest with
  | nil => rfl
  | cons c rest => simp [stops c rfl]

theorem dropWhile_eq (stops : Stops p rest) : rest.dropWhile p = rest := by
  cases rest with
  | nil => rfl
  | cons c rest => simp [stops c rfl]

end Stops

/-- What a scan takes is a text of the grammar, and it takes each that no digit follows. -/
structure Reads {α : Type} (scan : Scan α) (Written : List Char → α → Prop) : Prop where
  sound : ∀ {cs a rest}, scan.run cs = some (a, rest) →
    ∃ taken, cs = taken ++ rest ∧ Written taken a
  complete : ∀ {taken a rest}, Written taken a → Stops Char.isDigit rest →
    scan.run (taken ++ rest) = some (a, rest)

theorem Reads.readAll_eq_some_iff {α : Type} {scan : Scan α} {Written : List Char → α → Prop}
    (reads : Reads scan Written) {cs : List Char} {a : α} :
    Scan.readAll scan cs = some a ↔ Written cs a := by
  have run : Scan.readAll scan cs =
      (scan.run cs).bind fun p => if p.2 = [] then some p.1 else none := by
    rw [Scan.readAll, StateT.run_bind]
    cases scan.run cs with
    | none => rfl
    | some p =>
        obtain ⟨b, rest⟩ := p
        cases rest <;> rfl
  rw [run]
  constructor
  · intro read
    obtain ⟨⟨b, rest⟩, scanned, whole⟩ := Option.bind_eq_some_iff.mp read
    obtain ⟨rfl, rfl⟩ : rest = [] ∧ b = a := by simpa using whole
    obtain ⟨taken, rfl, written⟩ := reads.sound scanned
    simpa using written
  · intro written
    have ends : Stops Char.isDigit [] := by simp [Stops]
    have scanned := reads.complete written ends
    rw [List.append_nil] at scanned
    simp [scanned]

theorem Reads.map {α β : Type} {scan : Scan α} {Written : List Char → α → Prop}
    (reads : Reads scan Written) (f : α → β) :
    Reads (f <$> scan) fun cs b => ∃ a, Written cs a ∧ f a = b where
  sound := by
    intro cs b rest scanned
    rw [StateT.run_map] at scanned
    obtain ⟨⟨a, left⟩, read, same⟩ := Option.map_eq_some_iff.mp scanned
    obtain ⟨rfl, rfl⟩ : f a = b ∧ left = rest := by simpa using same
    obtain ⟨taken, cut, written⟩ := reads.sound read
    exact ⟨taken, cut, a, written, rfl⟩
  complete := by
    intro taken b rest written ends
    obtain ⟨a, written, rfl⟩ := written
    rw [StateT.run_map, reads.complete written ends]
    rfl

/-! ### Digits -/

/-- The digits at the front, as many as a number may have. -/
def leadingDigits (most : Option Nat) (cs : List Char) : List Char :=
  (most.elim cs cs.take).takeWhile Char.isDigit

theorem exists_run_scanDigits (most : Option Nat) (cs : List Char) :
    ∃ rest, cs = leadingDigits most cs ++ rest ∧ (scanDigits most).run cs =
      if leadingDigits most cs = [] then none
      else some (Digit.toNat (Digit.readAll (leadingDigits most cs)).1, rest) := by
  cases most with
  | none =>
      refine ⟨cs.dropWhile Char.isDigit, List.takeWhile_append_dropWhile.symm, ?_⟩
      change (if (leadingDigits none cs).isEmpty then failure else pure _ : Scan Nat).run _ = _
      simp only [List.isEmpty_iff]
      split <;> rfl
  | some n =>
      have initial : leadingDigits (some n) cs <+: cs :=
        (List.takeWhile_prefix _).trans (List.take_prefix n cs)
      refine ⟨cs.drop (leadingDigits (some n) cs).length,
        (List.prefix_iff_eq_append.mp initial).symm, ?_⟩
      change (if (leadingDigits (some n) cs).isEmpty then failure else pure _ : Scan Nat).run _ = _
      simp only [List.isEmpty_iff]
      split <;> rfl

theorem exists_leadingDigits_eq (most : Option Nat) (cs : List Char) :
    ∃ ds : List Digit, ds.map Digit.toChar = leadingDigits most cs ∧ ∀ n ∈ most, ds.length ≤ n := by
  have digits : ∀ c ∈ leadingDigits most cs, c.isDigit = true := by
    intro c member
    exact List.all_eq_true.mp List.all_takeWhile c member
  obtain ⟨ds, spelled⟩ := Digit.exists_map_toChar digits
  refine ⟨ds, spelled, ?_⟩
  rintro n rfl
  have short : (leadingDigits (some n) cs).length ≤ n :=
    (List.takeWhile_prefix _).length_le.trans (List.length_take_le n cs)
  rwa [← spelled, List.length_map] at short

theorem leadingDigits_append {most : Option Nat} {ds : List Digit} {rest : List Char}
    (short : ∀ n ∈ most, ds.length ≤ n) (ends : Stops Char.isDigit rest) :
    leadingDigits most (ds.map Digit.toChar ++ rest) = ds.map Digit.toChar := by
  have digits : ∀ c ∈ ds.map Digit.toChar, c.isDigit = true := by simp
  cases most with
  | none => simp [leadingDigits, List.takeWhile_append_of_pos digits, ends.takeWhile_eq]
  | some n =>
      have whole : (ds.map Digit.toChar).take n = ds.map Digit.toChar :=
        List.take_of_length_le (by simpa using short)
      simp [leadingDigits, List.take_append, whole, List.takeWhile_append_of_pos digits,
        (ends.take _).takeWhile_eq]

theorem reads_scanDigits (most : Option Nat) : Reads (scanDigits most) (WritesNumber most) where
  sound := by
    intro cs n rest scanned
    obtain ⟨left, cut, run⟩ := exists_run_scanDigits most cs
    obtain ⟨ds, spelled, short⟩ := exists_leadingDigits_eq most cs
    rw [scanned, ← spelled, Digit.readAll_map_toChar] at run
    split at run
    · cases run
    next nonempty =>
      cases run
      rw [← spelled] at cut
      exact ⟨_, cut, .mk (by simpa using nonempty) short⟩
  complete := by
    intro taken n rest written ends
    cases written with
    | @mk ds nonempty short =>
        obtain ⟨left, cut, run⟩ := exists_run_scanDigits most (ds.map Digit.toChar ++ rest)
        rw [leadingDigits_append short ends] at cut run
        rw [run, if_neg (by simpa using nonempty), Digit.readAll_map_toChar,
          List.append_cancel_left cut]

/-! ### Blanks and hyphens -/

theorem dropWhile_blanks {blanks rest : List Char} (blank : Blanks blanks)
    (solid : Stops Text.isBlank rest) : (blanks ++ rest).dropWhile Text.isBlank = rest := by
  rw [List.dropWhile_append_of_pos blank, solid.dropWhile_eq]

theorem exists_blanks {cs rest : List Char} (dropped : cs.dropWhile Text.isBlank = rest) :
    ∃ blanks, Blanks blanks ∧ cs = blanks ++ rest := by
  refine ⟨cs.takeWhile Text.isBlank, ?_, ?_⟩
  · intro c member
    exact List.all_eq_true.mp List.all_takeWhile c member
  · rw [← dropped, List.takeWhile_append_dropWhile]

theorem run_char_eq_some_iff {c : Char} {cs rest : List Char} :
    (Scan.char c).run cs = some ((), rest) ↔ cs = c :: rest := by
  cases cs with
  | nil => simp [Scan.char, StateT.run]
  | cons d cs => simp [Scan.char, StateT.run]

theorem run_scanHyphen_eq_some_iff {spacing : Spacing} {cs rest : List Char} :
    (scanHyphen spacing).run cs = some ((), rest) ↔
      ∃ gap, spacing.Allows gap ∧ cs = gap ++ '-' :: rest := by
  cases spacing with
  | tight => simp [scanHyphen, run_char_eq_some_iff, Spacing.Allows]
  | loose =>
      have run : (scanHyphen .loose).run cs = (Scan.char '-').run (cs.dropWhile Text.isBlank) := rfl
      rw [run, run_char_eq_some_iff]
      constructor
      · exact exists_blanks
      · intro ⟨gap, blank, cut⟩
        rw [cut, dropWhile_blanks blank (stops_cons (by decide) rest)]

/-! ### The numbers of a date -/

theorem run_scanYear_negative (cs : List Char) :
    scanYear.run ('-' :: cs) = ((fun n : Nat => -(n : Int)) <$> scanDigits none).run cs := by
  have sign : (Scan.char '-').run ('-' :: cs) = some ((), cs) := run_char_eq_some_iff.mpr rfl
  have run : scanYear.run ('-' :: cs) =
      (do Scan.char '-'; return -(← scanDigits none : Nat) : Scan Int).run ('-' :: cs) := rfl
  simp [run, sign]

theorem run_scanYear_positive (cs : List Char) :
    scanYear.run ('+' :: cs) = ((fun n : Nat => (n : Int)) <$> scanDigits none).run cs := by
  have sign : (Scan.char '+').run ('+' :: cs) = some ((), cs) := run_char_eq_some_iff.mpr rfl
  have run : scanYear.run ('+' :: cs) =
      (do Scan.char '+'; return (← scanDigits none : Nat) : Scan Int).run ('+' :: cs) := rfl
  simp [run, sign]

theorem run_scanYear_unsigned {cs : List Char} (minus : '-' ∉ cs.head?) (plus : '+' ∉ cs.head?) :
    scanYear.run cs = ((fun n : Nat => (n : Int)) <$> scanDigits (some 4)).run cs := by
  cases cs with
  | nil => rfl
  | cons c cs =>
      have peek : Scan.peek?.run (c :: cs) = some (some c, c :: cs) := rfl
      rw [scanYear, StateT.run_bind, peek]
      simp only [Option.bind_eq_bind, Option.bind_some]
      split
      case h_1 same => simp [Option.some.inj same] at minus
      case h_2 same => simp [Option.some.inj same] at plus
      case h_3 => simp

theorem WritesNumber.exists_digit {most : Option Nat} {cs : List Char} {n : Nat}
    (number : WritesNumber most cs n) : ∃ (d : Digit) (others : List Char),
      cs = d.toChar :: others := by
  obtain ⟨nonempty, -⟩ := number
  obtain ⟨d, ds, rfl⟩ := List.exists_cons_of_ne_nil nonempty
  exact ⟨d, ds.map Digit.toChar, rfl⟩

theorem reads_scanYear : Reads scanYear WritesYear where
  sound := by
    intro cs year rest scanned
    by_cases minus : '-' ∈ cs.head?
    · obtain ⟨digits, rfl⟩ := List.head?_eq_some_iff.mp minus
      rw [run_scanYear_negative] at scanned
      obtain ⟨taken, rfl, n, number, rfl⟩ := ((reads_scanDigits none).map _).sound scanned
      exact ⟨_, rfl, .negative number⟩
    by_cases plus : '+' ∈ cs.head?
    · obtain ⟨digits, rfl⟩ := List.head?_eq_some_iff.mp plus
      rw [run_scanYear_positive] at scanned
      obtain ⟨taken, rfl, n, number, rfl⟩ := ((reads_scanDigits none).map _).sound scanned
      exact ⟨_, rfl, .positive number⟩
    · rw [run_scanYear_unsigned minus plus] at scanned
      obtain ⟨taken, rfl, n, number, rfl⟩ := ((reads_scanDigits (some 4)).map _).sound scanned
      exact ⟨_, rfl, .unsigned number⟩
  complete := by
    intro taken year rest written ends
    cases written with
    | unsigned number =>
        obtain ⟨d, others, spelled⟩ := number.exists_digit
        -- A number without a sign does not begin as one with a sign does.
        have unsigned (c : Char) (sign : c.isDigit = false) : c ∉ (taken ++ rest).head? := by
          rw [spelled]
          rintro ⟨⟩
          simp at sign
        rw [run_scanYear_unsigned (unsigned '-' (by decide)) (unsigned '+' (by decide))]
        exact ((reads_scanDigits (some 4)).map _).complete ⟨_, number, rfl⟩ ends
    | positive number =>
        rw [List.cons_append, run_scanYear_positive]
        exact ((reads_scanDigits none).map _).complete ⟨_, number, rfl⟩ ends
    | negative number =>
        rw [List.cons_append, run_scanYear_negative]
        exact ((reads_scanDigits none).map _).complete ⟨_, number, rfl⟩ ends

theorem WritesNumber.solid {most : Option Nat} {cs : List Char} {n : Nat}
    (number : WritesNumber most cs n) (rest : List Char) : Stops Text.isBlank (cs ++ rest) := by
  obtain ⟨d, others, rfl⟩ := number.exists_digit
  exact stops_cons d.isBlank_toChar _

theorem run_scanPart (spacing : Spacing) (cs : List Char) :
    (scanPart spacing).run cs = ((scanHyphen spacing).run cs).bind fun p =>
      (scanDigits (some 2)).run (p.2.dropWhile Text.isBlank) :=
  rfl

theorem reads_scanPart (spacing : Spacing) : Reads (scanPart spacing) (WritesPart spacing) where
  sound := by
    intro cs n rest scanned
    rw [run_scanPart] at scanned
    obtain ⟨⟨⟨⟩, left⟩, hyphen, digits⟩ := Option.bind_eq_some_iff.mp scanned
    obtain ⟨gap, allowed, rfl⟩ := run_scanHyphen_eq_some_iff.mp hyphen
    obtain ⟨taken, spelled, number⟩ := (reads_scanDigits (some 2)).sound digits
    obtain ⟨blanks, blank, rfl⟩ := exists_blanks spelled
    exact ⟨_, by simp, .mk allowed blank number⟩
  complete := by
    intro taken n rest written ends
    cases written with
    | @mk gap blanks cs _ allowed blank number =>
        have hyphen : (scanHyphen spacing).run (gap ++ '-' :: (blanks ++ (cs ++ rest))) =
            some ((), blanks ++ (cs ++ rest)) :=
          run_scanHyphen_eq_some_iff.mpr ⟨gap, allowed, rfl⟩
        have digits := (reads_scanDigits (some 2)).complete number ends
        simp [run_scanPart, hyphen, dropWhile_blanks blank (number.solid rest), digits]

/-! ### The whole date -/

theorem not_isDigit_of_isBlank {c : Char} (blank : Text.isBlank c = true) : c.isDigit = false := by
  by_contra digit
  obtain ⟨d, rfl⟩ := Digit.exists_toChar (by simpa using digit)
  simp at blank

theorem Spacing.Allows.blanks {spacing : Spacing} {gap : List Char} (allowed : spacing.Allows gap) :
    Blanks gap := by
  cases spacing with
  | tight =>
      cases allowed
      exact blanks_nil
  | loose => exact allowed

theorem WritesPart.ends {spacing : Spacing} {cs : List Char} {n : Nat}
    (part : WritesPart spacing cs n) (rest : List Char) : Stops Char.isDigit (cs ++ rest) := by
  cases part with
  | @mk gap _ _ _ allowed =>
      cases gap with
      | nil => exact stops_cons (by decide) _
      | cons c gap =>
          have blank := allowed.blanks c List.mem_cons_self
          exact stops_cons (not_isDigit_of_isBlank blank) _

theorem WritesYear.solid {cs : List Char} {year : Int} (written : WritesYear cs year)
    (rest : List Char) : Stops Text.isBlank (cs ++ rest) := by
  cases written with
  | unsigned number => exact number.solid rest
  | positive => exact stops_cons (by decide) _
  | negative => exact stops_cons (by decide) _

theorem run_scanCivil (spacing : Spacing) (cs : List Char) :
    (scanCivil spacing).run cs =
      (scanYear.run (cs.dropWhile Text.isBlank)).bind fun (year, cs) =>
        ((scanPart spacing).run cs).bind fun (month, cs) =>
          ((scanPart spacing).run cs).bind fun (day, cs) => some (⟨year, month, day⟩, cs) :=
  rfl

theorem reads_scanCivil (spacing : Spacing) : Reads (scanCivil spacing) (Writes spacing) where
  sound := by
    intro cs c rest scanned
    rw [run_scanCivil] at scanned
    obtain ⟨⟨year, afterYear⟩, yearRead, scanned⟩ := Option.bind_eq_some_iff.mp scanned
    obtain ⟨⟨month, afterMonth⟩, monthRead, scanned⟩ := Option.bind_eq_some_iff.mp scanned
    obtain ⟨⟨day, afterDay⟩, dayRead, same⟩ := Option.bind_eq_some_iff.mp scanned
    cases same
    obtain ⟨ys, spelled, years⟩ := reads_scanYear.sound yearRead
    obtain ⟨ms, rfl, months⟩ := (reads_scanPart spacing).sound monthRead
    obtain ⟨ds, rfl, days⟩ := (reads_scanPart spacing).sound dayRead
    obtain ⟨blanks, blank, rfl⟩ := exists_blanks spelled
    exact ⟨_, by simp, .mk blank years months days⟩
  complete := by
    intro taken c rest written ends
    cases written with
    | @mk _ _ _ ds _ _ _ blank years months days =>
        -- From the end, as each number is read to its end only if no digit follows.
        have dayRead := (reads_scanPart spacing).complete days ends
        have monthRead := (reads_scanPart spacing).complete months (days.ends rest)
        have yearRead := reads_scanYear.complete years (months.ends (ds ++ rest))
        simp [run_scanCivil, dropWhile_blanks blank (years.solid _), yearRead, monthRead, dayRead]

theorem writesNumber_padded {most : Option Nat} (width n : Nat)
    (short : ∀ k ∈ most, max width (Digit.ofNat n).length ≤ k) :
    WritesNumber most (Digit.padded width n).toList n := by
  obtain ⟨ds, spelled, rfl, length⟩ := Digit.exists_padded width n
  have nonempty : ds ≠ [] := by
    rintro rfl
    simpa [Digit.ofNat_ne_nil] using length.symm
  rw [spelled]
  exact .mk nonempty (by simpa only [length] using short)

/-- A printed year has four digits in the years 0 to 9999, and a sign in all others. -/
theorem writesYear_yearText (year : Int) : WritesYear (Civil.yearText year).toList year := by
  unfold Civil.yearText
  split
  next negative =>
    have value : -(year.natAbs : Int) = year := by omega
    have written := WritesYear.negative (writesNumber_padded 4 year.natAbs (by simp))
    rw [value] at written
    simpa using written
  · have value : (year.natAbs : Int) = year := by omega
    split
    next large =>
      have written := WritesYear.positive (writesNumber_padded 4 year.natAbs (by simp))
      rw [value] at written
      simpa using written
    next small =>
      have digits : (Digit.ofNat year.natAbs).length ≤ 4 := Digit.length_ofNat_le (by omega)
      have written :=
        WritesYear.unsigned (writesNumber_padded 4 year.natAbs (by simpa using digits))
      rw [value] at written
      simpa using written

theorem writesPart_padded (spacing : Spacing) {n : Nat} (small : n < 100) :
    WritesPart spacing ('-' :: (Digit.padded 2 n).toList) n := by
  have digits : (Digit.ofNat n).length ≤ 2 := Digit.length_ofNat_le small
  have allowed : spacing.Allows [] := by
    cases spacing with
    | tight => rfl
    | loose => exact blanks_nil
  exact .mk allowed blanks_nil (writesNumber_padded 2 n (by simpa using digits))

theorem writes_text (spacing : Spacing) {c : Civil} (valid : c.Valid) :
    Writes spacing c.text.toList c := by
  have month : c.month < 100 := by
    have bounds := valid.month
    omega
  have day : c.day < 100 := by
    have bounds := valid.2
    have length := Civil.daysInMonth_le c.year c.month
    omega
  have written := Writes.mk blanks_nil (writesYear_yearText c.year)
    (writesPart_padded spacing month) (writesPart_padded spacing day)
  simpa [Civil.text] using written

theorem ofText?_eq_some_iff {spacing : Spacing} {s : String} {d : Date} :
    ofText? spacing s = some d ↔ Writes spacing (Text.trimmed s.toList) d.civil := by
  rw [ofText?, Option.bind_eq_some_iff]
  simp only [(reads_scanCivil spacing).readAll_eq_some_iff, ofCivil?_eq_some_iff]
  constructor
  · rintro ⟨_, written, rfl⟩
    exact written
  · intro written
    exact ⟨_, written, rfl⟩

theorem parse_eq_ok_iff {s : String} {d : Date} : parse s = .ok d ↔ ofText? .tight s = some d := by
  unfold parse
  cases ofText? .tight s <;> simp

theorem mem_text {d : Date} {c : Char} (member : c ∈ d.text.toList) :
    (∃ n : Digit, n.toChar = c) ∨ c = '-' ∨ c = '+' := by
  simp only [text, Civil.text, Civil.yearText, String.toList_append, List.mem_append] at member
  rcases member with ((((sign | digit) | hyphen) | digit) | hyphen) | digit
  · split at sign
    · exact .inr (.inl (by simpa using sign))
    · split at sign
      · exact .inr (.inr (by simpa using sign))
      · simp at sign
  · exact .inl (Digit.exists_of_mem_padded digit)
  · exact .inr (.inl (by simpa using hyphen))
  · exact .inl (Digit.exists_of_mem_padded digit)
  · exact .inr (.inl (by simpa using hyphen))
  · exact .inl (Digit.exists_of_mem_padded digit)

theorem ofText?_text (spacing : Spacing) (d : Date) : ofText? spacing d.text = some d := by
  have solid : ∀ c ∈ d.text.toList, Text.isBlank c = false := by
    intro c member
    rcases mem_text member with ⟨n, rfl⟩ | rfl | rfl
    · exact n.isBlank_toChar
    · decide
    · decide
  rw [ofText?_eq_some_iff, Text.trimmed_of_solid solid]
  exact writes_text spacing d.valid_civil

theorem parse_text (d : Date) : parse d.text = .ok d :=
  parse_eq_ok_iff.mpr (ofText?_text .tight d)

theorem text_injective : Function.Injective text := by
  intro d e same
  have read : some d = some e := by rw [← ofText?_text .tight d, same, ofText?_text]
  exact Option.some.inj read

theorem write_toJson (d : Date) : d.toJson.write = "\"" ++ d.text ++ "\"" := by
  apply Json.quoted_of_plain
  intro c member
  have digits : ∀ n : Digit, Json.escapeChar n.toChar = [n.toChar] := by decide
  rcases mem_text member with ⟨n, rfl⟩ | rfl | rfl
  · exact digits n
  · decide
  · decide

theorem ofJson_text_eq_ok_iff {s : String} {d : Date} :
    ofJson (.text s) = .ok d ↔ ofText? .loose s = some d := by
  change Decode.ofOption (ofText? .loose s) = .ok d ↔ _
  cases ofText? .loose s <;> simp [Decode.ofOption, Decode.refuse]

theorem ofText_write (d : Date) : Decode.ofText ofJson d.toJson.write = .ok d := by
  have written : d.toJson.write = Json.quoted d.text := rfl
  rw [written, Decode.ofText_quoted]
  exact ofJson_text_eq_ok_iff.mpr (ofText?_text .loose d)

/-- The dates are the days of the calendar in their years. What is printed for a date reads back,
also from a document, where it stands in quotes; so no two dates are printed alike. The texts that
are read are those of the grammar, and printing what was read changes nothing for a second
reading. -/
theorem texts_of_dates :
    (∀ c : Civil, (∃ d : Date, d.civil = c) ↔ c.Valid ∧ c.InRange) ∧
    (∀ d : Date, parse d.text = .ok d ∧ d.toJson.write = "\"" ++ d.text ++ "\"" ∧
      ofJson d.toJson = .ok d ∧ Decode.ofText ofJson d.toJson.write = .ok d) ∧
    Function.Injective text ∧
    (∀ s d, parse s = .ok d ↔ Writes .tight (Text.trimmed s.toList) d.civil) ∧
    (∀ s d, ofJson (.text s) = .ok d ↔ Writes .loose (Text.trimmed s.toList) d.civil) ∧
    ∀ s, (do parse (← parse s).text) = parse s := by
  refine ⟨fun c => ⟨?_, fun ⟨valid, inside⟩ => exists_civil_eq valid inside⟩, ?_, text_injective,
    ?_, ?_, ?_⟩
  · rintro ⟨d, rfl⟩
    exact ⟨d.valid_civil, d.inRange_civil⟩
  · intro d
    exact ⟨parse_text d, write_toJson d, ofJson_text_eq_ok_iff.mpr (ofText?_text .loose d),
      ofText_write d⟩
  · intro s d
    rw [parse_eq_ok_iff, ofText?_eq_some_iff]
  · intro s d
    rw [ofJson_text_eq_ok_iff, ofText?_eq_some_iff]
  · intro s
    cases parse s with
    | error e => rfl
    | ok d => simp only [bind, Except.bind, parse_text]

example : parse " -43- 3- 15\u2003" = .ok ⟨-15692, by decide, by decide⟩ := by decide

end Date

end CurvePnl
