/-
Module: BoxProbe.Proofs.Number.Numeral
Purpose: Decimal digits as written and as read.
Trusted boundary: none
Main exports: Numeral.natOf_append, Numeral.natOf_toDigits, Numeral.natOf_lt,
  Numeral.signed_toDigits, Numeral.isWritable_iff, Numeral.IsWhole, Numeral.isWhole_toDigits
-/
import BoxProbe.Number.Numeral
import Mathlib.Tactic.Ring

namespace BoxProbe.Numeral

/-!
Writing a number in digits and reading them gives the number back.  The digits of a number start
with a zero only if it is zero, and a number of so many digits lies below that power of ten.
-/

theorem natOf_eq_ofDigitChars (digits : List Char) :
    natOf digits = Nat.ofDigitChars 10 digits 0 :=
  Nat.ofDigitChars_eq_foldl.symm

theorem natOf_append (front back : List Char) :
    natOf (front ++ back) = natOf front * 10 ^ back.length + natOf back := by
  simp only [natOf_eq_ofDigitChars, Nat.ofDigitChars_append]
  rw [Nat.ofDigitChars_eq_ofDigitChars_zero]
  ring

theorem natOf_toDigits (n : Nat) : natOf (Nat.toDigits 10 n) = n :=
  (natOf_eq_ofDigitChars _).trans Nat.ofDigitChars_ten_toDigits

theorem natOf_zeros (k : Nat) : natOf (List.replicate k '0') = 0 := by
  rw [natOf_eq_ofDigitChars, Nat.ofDigitChars_replicate_zero, Nat.mul_zero]

theorem natOf_zeros_append (k : Nat) (digits : List Char) :
    natOf (List.replicate k '0' ++ digits) = natOf digits := by
  rw [natOf_append, natOf_zeros, Nat.zero_mul, Nat.zero_add]

theorem natOf_append_zeros (digits : List Char) (k : Nat) :
    natOf (digits ++ List.replicate k '0') = natOf digits * 10 ^ k := by
  rw [natOf_append, natOf_zeros, List.length_replicate, Nat.add_zero]

theorem digit_lt {c : Char} (h : c.isDigit = true) : c.toNat - '0'.toNat < 10 := by
  simp only [Char.isDigit, Bool.and_eq_true, decide_eq_true_eq] at h
  have most : c.toNat ≤ 57 := h.2
  have zero : '0'.toNat = 48 := rfl
  omega

theorem natOf_lt {digits : List Char} (h : digits.all Char.isDigit = true) :
    natOf digits < 10 ^ digits.length := by
  induction digits with
  | nil => decide
  | cons c rest ih =>
    simp only [List.all_cons, Bool.and_eq_true] at h
    have first : natOf [c] < 10 := by
      have digit := digit_lt h.1
      simpa [natOf] using digit
    have others := ih h.2
    rw [← List.singleton_append, natOf_append, List.length_append, List.length_singleton]
    calc natOf [c] * 10 ^ rest.length + natOf rest
        < natOf [c] * 10 ^ rest.length + 10 ^ rest.length := Nat.add_lt_add_left others _
      _ = (natOf [c] + 1) * 10 ^ rest.length := by ring
      _ ≤ 10 * 10 ^ rest.length := Nat.mul_le_mul_right _ first
      _ = 10 ^ (1 + rest.length) := by ring

theorem all_isDigit_toDigits (n : Nat) : (Nat.toDigits 10 n).all Char.isDigit = true :=
  List.all_eq_true.mpr fun _ inside => Nat.isDigit_of_mem_toDigits (by decide) (by decide) inside

theorem all_isDigit_of_subset {part digits : List Char} (h : part ⊆ digits)
    (numeral : digits.all Char.isDigit = true) : part.all Char.isDigit = true :=
  List.all_eq_true.mpr fun c inside => List.all_eq_true.mp numeral c (h inside)

theorem all_isDigit_zeros (k : Nat) : (List.replicate k '0').all Char.isDigit = true := by
  rw [List.all_replicate]
  split <;> rfl

/-- The digits of a positive number start with none of its zeros. -/
theorem head?_toDigits_ne_zero {n : Nat} (pos : 0 < n) : (Nat.toDigits 10 n).head? ≠ some '0' := by
  induction n using Nat.strong_induction_on with
  | h n ih =>
    by_cases small : n < 10
    · rw [Nat.toDigits_of_lt_base small, List.head?_cons]
      intro zero
      have value := Nat.digitChar_eq_zero.mp (Option.some.inj zero)
      omega
    · have large : 10 ≤ n := Nat.le_of_not_lt small
      rw [Nat.toDigits_of_base_le (by decide) large]
      cases front : Nat.toDigits 10 (n / 10) with
      | nil => exact absurd front Nat.toDigits_ne_nil
      | cons c rest =>
        have first := ih (n / 10) (by omega) (by omega)
        rwa [front] at first

/-- The sign and the digits of an integer give the integer. -/
theorem signed_toDigits (n : Int) :
    signed (decide (n < 0)) (Nat.toDigits 10 n.natAbs) = n := by
  rw [signed, natOf_toDigits]
  by_cases negative : n < 0
  · simp only [negative, decide_true, if_true]
    omega
  · simp only [negative, decide_false, Bool.false_eq_true, if_false]
    omega

theorem natAbs_signed (negative : Bool) (digits : List Char) :
    (signed negative digits).natAbs = natOf digits := by
  cases negative <;> simp [signed]

theorem isWritable_iff {n : Int} : isWritable n = true ↔ n.natAbs < 10 ^ maxIntDigits := by
  simp only [isWritable, Double.digitCount]
  exact decide_eq_true_iff.trans (Nat.length_toDigits_le_iff (b := 10) (by decide) (by decide))

/-- An integer of no more digits than may be written is short enough to be written. -/
theorem isWritable_signed (negative : Bool) {digits : List Char}
    (numeral : digits.all Char.isDigit = true) (short : digits.length ≤ maxIntDigits) :
    isWritable (signed negative digits) = true := by
  rw [isWritable_iff, natAbs_signed]
  exact (natOf_lt numeral).trans_le (Nat.pow_le_pow_right (by decide) short)

/-- The digits of a whole number: a single zero, or digits of which the first is no zero. -/
def IsWhole (digits : List Char) : Prop :=
  digits = ['0'] ∨ digits ≠ [] ∧ digits.head? ≠ some '0' ∧ digits.all Char.isDigit = true

theorem IsWhole.all_isDigit {digits : List Char} (h : IsWhole digits) :
    digits.all Char.isDigit = true := by
  rcases h with rfl | ⟨-, -, numeral⟩
  · rfl
  · exact numeral

theorem IsWhole.ne_nil {digits : List Char} (h : IsWhole digits) : digits ≠ [] := by
  rcases h with rfl | ⟨nonempty, -⟩
  · exact List.cons_ne_nil _ _
  · exact nonempty

theorem isWhole_toDigits (n : Nat) : IsWhole (Nat.toDigits 10 n) := by
  rcases Nat.eq_zero_or_pos n with rfl | pos
  · exact .inl (Nat.toDigits_zero 10)
  · exact .inr ⟨Nat.toDigits_ne_nil, head?_toDigits_ne_zero pos, all_isDigit_toDigits n⟩

end BoxProbe.Numeral
