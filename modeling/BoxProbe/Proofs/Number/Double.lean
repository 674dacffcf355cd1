/-
Module: BoxProbe.Proofs.Number.Double
Purpose: Exact values of doubles: their signs, halves, and the double one.
Trusted boundary: none
Main exports: Double.sign_of_pos, Double.pos_of_not_nonpositive, Double.sign_of_half_less,
  Double.rank_of_units, Double.toRat?_eq_one_iff
-/
import BoxProbe.Number.Double
import Mathlib.Algebra.IsPrimePow
import Mathlib.Algebra.Order.Ring.Unbundled.Rat
import Mathlib.Data.Nat.Prime.Basic
import Mathlib.Tactic.Linarith

namespace BoxProbe

namespace Double

/-- A double without a sign is not negative. -/
theorem nonneg_of_positive_sign {rank : Fin rankLimit} {x : Rat}
    (h : (Double.finite false rank).toRat? = some x) : 0 ≤ x := by
  simp only [toRat?, Bool.false_eq_true, if_false, Option.some.injEq] at h
  rw [← h]
  exact Rat.mkRat_nonneg (Int.natCast_nonneg _) _

theorem sign_of_pos {negative : Bool} {rank : Fin rankLimit} {x : Rat}
    (h : (Double.finite negative rank).toRat? = some x) (pos : 0 < x) : negative = false := by
  cases negative with
  | false => rfl
  | true =>
    simp only [toRat?, if_true, Option.some.injEq] at h
    have nonneg := Rat.mkRat_nonneg (Int.natCast_nonneg (units rank.val)) (Nat.pow 2 1074)
    linarith only [h, nonneg, pos]

/-- Only rank 0 has no units. -/
theorem units_pos {rank : Nat} (h : 0 < rank) : 0 < units rank := by
  have binade_pos : 0 < binade := Nat.pow_pos (by decide)
  unfold units
  split
  next => exact h
  next => exact Nat.mul_pos (by omega) (Nat.pow_pos (by decide))

/-- A number that is not zero or less is positive. -/
theorem pos_of_not_nonpositive {d : Double} {x : Rat} (h : d.toRat? = some x)
    (positive : d.isNonpositive = false) : 0 < x := by
  cases d with
  | nan => simp [toRat?] at h
  | infinite negative => simp [toRat?] at h
  | finite negative rank =>
    simp only [isNonpositive, Bool.or_eq_false_iff, beq_eq_false_iff_ne] at positive
    obtain ⟨rfl, nonzero⟩ := positive
    have some_units := units_pos (Nat.pos_of_ne_zero nonzero)
    simp only [toRat?, Bool.false_eq_true, if_false, Option.some.injEq] at h
    rw [← h]
    apply lt_of_le_of_ne (Rat.mkRat_nonneg (Int.natCast_nonneg _) _)
    intro zero
    have scale : Nat.pow 2 1074 ≠ 0 := by decide +kernel
    have none := (Rat.mkRat_eq_zero scale).mp zero.symm
    omega

theorem half_of_pos {d : Double} {x : Rat} (h : d.toRat? = some x) (pos : 0 < x) :
    d.half = .infinite false ∨ ∃ rank, d.half = .finite false rank := by
  cases d with
  | nan => simp [toRat?] at h
  | infinite negative => simp [toRat?] at h
  | finite negative rank =>
    rw [sign_of_pos h pos]
    simp only [half, ofRatio, ofRank]
    split
    next small => exact .inr ⟨_, rfl⟩
    next => exact .inl rfl

/-- What lies above half of a positive double has no sign either. -/
theorem sign_of_half_less {d e : Double} {x y : Rat} (hd : d.toRat? = some x) (pos : 0 < x)
    (he : e.toRat? = some y) (h : less d.half e = true) : (∃ z, d.half.toRat? = some z ∧ 0 ≤ z) ∧
      0 ≤ y := by
  rcases half_of_pos hd pos with infinite | ⟨rank, finite⟩
  · rw [infinite] at h
    cases e <;> simp [less] at h
  · cases e with
    | nan => simp [toRat?] at he
    | infinite negative => simp [toRat?] at he
    | finite negative rank' =>
      cases negative with
      | true => simp [finite, less] at h
      | false =>
        refine ⟨⟨_, by rw [finite]; rfl, ?_⟩, nonneg_of_positive_sign he⟩
        exact nonneg_of_positive_sign rfl

/-! ### The double one -/

/-- A power of two that is no subnormal number starts a binade. -/
theorem rank_of_units {rank e : Nat} (large : 53 ≤ e) (h : units rank = Nat.pow 2 e) :
    rank = (e - 51) * binade := by
  have size : binade = 2 ^ 52 := rfl
  simp only [units, Nat.pow_eq] at h
  split at h
  next small =>
    have grows : 2 ^ 53 ≤ 2 ^ e := Nat.pow_le_pow_right (by decide) large
    omega
  next normal =>
    -- The units of a binade are the numbers from 2 ^ 52 to 2 ^ 53, times a power of two.
    have inside := Nat.mod_lt rank (show 0 < binade by decide)
    obtain ⟨j, -, power⟩ := (Nat.dvd_prime_pow Nat.prime_two).mp (Dvd.intro _ h)
    have low : 2 ^ 52 ≤ 2 ^ j := by omega
    have high : 2 ^ j < 2 ^ 53 := by omega
    have first : 52 ≤ j := (Nat.pow_le_pow_iff_right (by decide)).mp low
    have last : j < 53 := (Nat.pow_lt_pow_iff_right (by decide)).mp high
    obtain rfl : j = 52 := by omega
    rw [power, ← pow_add] at h
    have exponent : 52 + (rank / binade - 1) = e := Nat.pow_right_injective (by decide) h
    have whole : rank % binade = 0 := by omega
    have quotient : rank / binade = e - 51 := by omega
    rw [← quotient]
    exact (Nat.div_mul_cancel (Nat.dvd_of_mod_eq_zero whole)).symm

theorem eq_of_mkRat_eq_one {n d : Nat} (h : mkRat n d = 1) : n = d := by
  have nonzero : d ≠ 0 := by
    rintro rfl
    simp at h
  have quotient : (n : Rat) / d = 1 := by
    rw [← h, Rat.mkRat_eq_div]
    rfl
  have same := (div_eq_one_iff_eq (Nat.cast_ne_zero.mpr nonzero)).mp quotient
  exact_mod_cast same

theorem toRat?_eq_one_iff (d : Double) : d.toRat? = some 1 ↔ d = ofInt 1 := by
  have one : ofInt 1 = .finite false ⟨1023 * binade, by decide⟩ := by decide +kernel
  constructor
  · intro h
    cases d with
    | nan => simp [toRat?] at h
    | infinite negative => simp [toRat?] at h
    | finite negative rank =>
      cases negative with
      | true => exact absurd (sign_of_pos h one_pos) (by decide)
      | false =>
        simp only [toRat?, Bool.false_eq_true, if_false, Option.some.injEq] at h
        have scale := eq_of_mkRat_eq_one h
        have place := rank_of_units (by decide) scale
        have same : rank = ⟨1023 * binade, by decide⟩ := Fin.ext place
        rw [one, same]
  · intro same
    rw [same]
    decide +kernel

end Double

end BoxProbe
