import CurvePnl.Decimal.Digit
import Mathlib.Algebra.Group.Nat.Defs
import Mathlib.Data.List.Induction

/-! # Digits written and read

The digits of a number write that number, and of all digits that write it they are the fewest: the
others have zeros in front. Digits are read back from their characters, which are the ASCII digits.
-/

namespace CurvePnl.Digit

theorem ofChar?_eq_some_iff {c : Char} {d : Digit} : ofChar? c = some d ↔ c = d.toChar := by
  constructor
  · intro h
    unfold ofChar? at h
    split at h
    next digit =>
      cases h
      have code : 48 + (c.toNat - 48) = c.toNat := by omega
      rw [toChar, code, Char.ofNat_toNat]
    · cases h
  · rintro rfl
    revert d
    decide

theorem readAll_eq_iff {cs : List Char} {ds : List Digit} :
    readAll cs = (ds, []) ↔ cs = ds.map toChar := by
  induction cs generalizing ds with
  | nil => cases ds <;> simp [readAll]
  | cons c cs ih =>
      rw [readAll]
      cases read : ofChar? c with
      | none =>
          have other (d : Digit) : c ≠ d.toChar := by
            rintro rfl
            simp [ofChar?_eq_some_iff.mpr rfl] at read
          cases ds <;> simp [other]
      | some d =>
          have digit := ofChar?_eq_some_iff.mp read
          cases ds with
          | nil => simp
          | cons e es =>
              have same : d.toChar = e.toChar ↔ d = e := by
                rw [← ofChar?_eq_some_iff, ofChar?_eq_some_iff.mpr rfl, Option.some.injEq]
              simp [digit, same, ← ih, Prod.ext_iff, and_assoc]

theorem readAll_map_toChar (ds : List Digit) : readAll (ds.map toChar) = (ds, []) :=
  readAll_eq_iff.mpr rfl

theorem toNat_concat (ds : List Digit) (d : Digit) : toNat (ds ++ [d]) = 10 * toNat ds + d.val := by
  simp [toNat, appendTo]

theorem toNat_zeros (k : Nat) (ds : List Digit) : toNat (List.replicate k 0 ++ ds) = toNat ds := by
  induction k with
  | zero => rfl
  | succ k ih => simpa [List.replicate_succ, toNat, appendTo] using ih

theorem ofNat_of_lt {n : Nat} (h : n < 10) : ofNat n = [⟨n, h⟩] := by
  rw [ofNat, dif_pos h]

theorem ofNat_of_pos {n : Nat} (positive : 0 < n) (d : Digit) :
    ofNat (10 * n + d.val) = ofNat n ++ [d] := by
  have quotient : (10 * n + d.val) / 10 = n := by omega
  have remainder : (10 * n + d.val) % 10 = d.val := by omega
  rw [ofNat, dif_neg (by omega)]
  simp only [quotient, remainder]

@[simp] theorem toNat_ofNat (n : Nat) : toNat (ofNat n) = n := by
  fun_induction ofNat n with
  | case1 n small => simp [toNat, appendTo]
  | case2 n large ih =>
      rw [toNat_concat, ih]
      exact Nat.div_add_mod n 10

theorem ofNat_ne_nil (n : Nat) : ofNat n ≠ [] := by
  unfold ofNat
  split <;> simp

/-- Digits are those of the number that they write, behind as many zeros as there are. -/
theorem exists_zeros {ds : List Digit} (some : ds ≠ []) :
    ∃ k, ds = List.replicate k 0 ++ ofNat (toNat ds) := by
  induction ds using List.reverseRecOn with
  | nil => exact absurd rfl some
  | append_singleton ds d ih =>
      rw [toNat_concat]
      by_cases alone : ds = []
      · subst alone
        have single : 10 * toNat [] + d.val = d.val := by simp [toNat, appendTo]
        rw [single, ofNat_of_lt d.isLt]
        exact ⟨0, rfl⟩
      · obtain ⟨k, spelled⟩ := ih alone
        rcases Nat.eq_zero_or_pos (toNat ds) with zero | positive
        · refine ⟨k + 1, ?_⟩
          rw [zero, ofNat_of_lt (by omega)] at spelled
          simp only [zero, Nat.mul_zero, Nat.zero_add]
          rw [ofNat_of_lt d.isLt, List.replicate_succ', spelled]
          rfl
        · refine ⟨k, ?_⟩
          rw [ofNat_of_pos positive, ← List.append_assoc, ← spelled]

@[simp] theorem isDigit_toChar (d : Digit) : d.toChar.isDigit = true := by
  revert d
  decide

theorem exists_toChar {c : Char} (digit : c.isDigit = true) : ∃ d : Digit, d.toChar = c := by
  have bounds : 48 ≤ c.toNat ∧ c.toNat < 58 := by
    simp only [Char.isDigit, Bool.and_eq_true, decide_eq_true_eq, ge_iff_le,
      UInt32.le_iff_toNat_le] at digit
    have low : '0'.val.toNat = 48 := rfl
    have high : '9'.val.toNat = 57 := rfl
    rw [Char.toNat]
    omega
  have read : ofChar? c = some ⟨c.toNat - 48, by omega⟩ := by
    rw [ofChar?, dif_pos bounds]
  exact ⟨_, (ofChar?_eq_some_iff.mp read).symm⟩

theorem exists_map_toChar {cs : List Char} (digits : ∀ c ∈ cs, c.isDigit = true) :
    ∃ ds : List Digit, ds.map toChar = cs := by
  induction cs with
  | nil => exact ⟨[], rfl⟩
  | cons c cs ih =>
      obtain ⟨first, others⟩ := List.forall_mem_cons.mp digits
      obtain ⟨d, rfl⟩ := exists_toChar first
      obtain ⟨ds, rfl⟩ := ih others
      exact ⟨d :: ds, rfl⟩

theorem length_ofNat_le {k n : Nat} (small : n < 10 ^ (k + 1)) : (ofNat n).length ≤ k + 1 := by
  induction k generalizing n with
  | zero => simp [ofNat_of_lt (show n < 10 by simpa using small)]
  | succ k ih =>
      rw [ofNat]
      split
      · simp
      · have shorter := ih (n := n / 10) (by omega)
        simpa using shorter

theorem exists_padded (width n : Nat) : ∃ ds : List Digit, (padded width n).toList = ds.map toChar ∧
    toNat ds = n ∧ ds.length = max width (ofNat n).length := by
  refine ⟨List.replicate (width - (ofNat n).length) 0 ++ ofNat n, by simp [padded, text], ?_, ?_⟩
  · rw [toNat_zeros, toNat_ofNat]
  · rw [List.length_append, List.length_replicate]
    omega

theorem exists_of_mem_padded {width n : Nat} {c : Char} (member : c ∈ (padded width n).toList) :
    ∃ d : Digit, d.toChar = c := by
  obtain ⟨ds, spelled, -⟩ := exists_padded width n
  rw [spelled, List.mem_map] at member
  obtain ⟨d, -, same⟩ := member
  exact ⟨d, same⟩

end CurvePnl.Digit
