/-
Module: BoxProbe.Proofs.Number.Half
Purpose: The order of doubles is that of their values, and half of a double is the nearest one.
Trusted boundary: none
Main exports: Double.units_strictMono, Double.less_iff, Double.atMost_exact, Double.half_near
-/
import BoxProbe.Proofs.Number.Rounding
import Mathlib.Algebra.Order.Field.Basic
import Mathlib.Order.Monotone.Basic

namespace BoxProbe

/-!
Ranks number the doubles in ascending order, so what compares ranks compares values.  Half of a
double from the second binade on lies one binade below it; a smaller one may have no half among the
doubles, and then it is rounded.
-/

namespace Double

/-! ### Order -/

theorem binade_pos : 0 < binade := by decide

theorem units_of_small {rank : Nat} (h : rank < 2 * binade) : units rank = rank := by
  unfold units
  split
  next => rfl
  next large =>
    have first : rank / binade = 1 := by
      rw [Nat.div_eq_iff binade_pos]
      omega
    have rest := Nat.div_add_mod rank binade
    rw [first] at rest ⊢
    simp only [Nat.sub_self, Nat.pow_eq, pow_zero]
    omega

/-- One binade further on a double is twice as large. -/
theorem units_add_binade {rank : Nat} (h : binade ≤ rank) :
    units (rank + binade) = 2 * units rank := by
  have block : 0 < rank / binade := Nat.div_pos h binade_pos
  have large : ¬ rank + binade < binade := by omega
  have shift : rank / binade + 1 - 1 = rank / binade - 1 + 1 := by omega
  simp only [units, large, not_lt.mpr h, if_false, Nat.add_mod_right,
    Nat.add_div_right rank binade_pos, shift, Nat.pow_eq, pow_succ]
  ring

theorem units_lt_succ (rank : Nat) : units rank < units (rank + 1) := by
  have size := binade_pos
  induction rank using Nat.strong_induction_on with
  | _ rank ih =>
    rcases lt_trichotomy (rank + 1) (2 * binade) with small | edge | large
    · rw [units_of_small small, units_of_small (by omega)]
      exact Nat.lt_succ_self rank
    · have last : units (rank + 1) = 2 * units binade := by
        rw [edge, Nat.two_mul]
        exact units_add_binade le_rfl
      rw [last, units_of_small (by omega), units_of_small (by omega)]
      omega
    · -- From the second binade on the steps are twice those one binade before.
      obtain ⟨before, rfl⟩ : ∃ before, rank = before + binade := ⟨rank - binade, by omega⟩
      have step := ih before (by omega)
      rw [Nat.add_right_comm, units_add_binade (by omega), units_add_binade (by omega)]
      omega

theorem units_strictMono : StrictMono units :=
  strictMono_nat_of_lt_succ units_lt_succ

/-- The magnitude of a rank. -/
def magnitude (rank : Nat) : Rat :=
  mkRat (units rank) (Nat.pow 2 1074)

theorem toRat?_finite (negative : Bool) (rank : Fin rankLimit) :
    (Double.finite negative rank).toRat? =
      some (if negative then -magnitude rank else magnitude rank) := rfl

theorem magnitude_eq (rank : Nat) :
    magnitude rank = (units rank : Rat) / ((Nat.pow 2 1074 : Nat) : Rat) :=
  Rat.mkRat_eq_div _ _

theorem scale_pos : (0 : Rat) < ((Nat.pow 2 1074 : Nat) : Rat) :=
  Nat.cast_pos.mpr (by decide +kernel)

theorem magnitude_lt_iff {m n : Nat} : magnitude m < magnitude n ↔ m < n := by
  rw [magnitude_eq, magnitude_eq, div_lt_div_iff_of_pos_right scale_pos, Nat.cast_lt]
  exact units_strictMono.lt_iff_lt

theorem magnitude_zero : magnitude 0 = 0 :=
  Rat.zero_mkRat _

theorem magnitude_pos_iff {n : Nat} : 0 < magnitude n ↔ 0 < n := by
  rw [← magnitude_zero]
  exact magnitude_lt_iff

theorem magnitude_nonneg (n : Nat) : 0 ≤ magnitude n := by
  rw [← not_lt, ← magnitude_zero, magnitude_lt_iff]
  exact Nat.not_lt_zero n

/-- Doubles compare as their values do. -/
theorem less_iff {a b : Double} {x y : Rat} (ha : a.toRat? = some x) (hb : b.toRat? = some y) :
    a.less b = true ↔ x < y := by
  cases a with
  | nan => cases ha
  | infinite _ => cases ha
  | finite negative m =>
    cases b with
    | nan => cases hb
    | infinite _ => cases hb
    | finite negative' n =>
      rw [toRat?_finite, Option.some.injEq] at ha hb
      subst ha hb
      have first := magnitude_nonneg m
      have second := magnitude_nonneg n
      cases negative with
      | false =>
        cases negative' with
        | false => simp [less, magnitude_lt_iff]
        | true =>
          simp only [less, Bool.false_eq_true, if_false, if_true, false_iff, not_lt]
          linarith
      | true =>
        cases negative' with
        | false =>
          -- Only two zeros are equal where the signs differ.
          simp only [less, if_true, Bool.false_eq_true, if_false, decide_eq_true_eq]
          constructor
          · intro nonzero
            rcases Nat.eq_zero_or_pos m.val with zero | positive
            · have other : 0 < magnitude n := magnitude_pos_iff.mpr (by omega)
              linarith
            · have other : 0 < magnitude m := magnitude_pos_iff.mpr positive
              linarith
          · rintro lt zeros
            have zero : m.val = 0 := by omega
            have zero' : n.val = 0 := by omega
            rw [zero, zero', magnitude_zero, neg_zero] at lt
            exact lt_irrefl _ lt
        | true => simp [less, magnitude_lt_iff]

/-- The first of two doubles, unless the second is less, is the lesser of them. -/
theorem atMost_exact {a b : Double} {x y : Rat} (ha : a.toRat? = some x) (hb : b.toRat? = some y) :
    (a.atMost b).toRat? = some (min x y) := by
  unfold atMost
  split
  next less => rw [hb, min_eq_right ((less_iff hb ha).mp less).le]
  next notLess => rw [ha, min_eq_left (not_lt.mp fun lt => notLess ((less_iff hb ha).mpr lt))]

/-! ### Halves -/

/-- The nearest whole number to a half is half a step off at most. -/
theorem roundDiv_two (n : Nat) : 2 * roundDiv n 2 ≤ n + 1 ∧ n ≤ 2 * roundDiv n 2 + 1 := by
  have parts := Nat.div_add_mod n 2
  rcases Nat.mod_two_eq_zero_or_one n with even | odd
  · simp only [roundDiv, even, Nat.mul_zero, Nat.zero_lt_two, if_true]
    omega
  · have rest := Nat.mod_lt (n / 2) Nat.zero_lt_two
    simp only [roundDiv, odd, Nat.mul_one, lt_irrefl, if_false]
    omega

theorem nearestRank_half_of_small {rank : Nat} (small : rank < 2 * binade) :
    nearestRank (units rank) (Nat.pow 2 1075) = roundDiv rank 2 := by
  have doubled : Nat.pow 2 1075 = 2 * Nat.pow 2 1074 := by decide +kernel
  have positive : 0 < Nat.pow 2 1074 := by decide +kernel
  rw [units_of_small small, doubled]
  unfold nearestRank
  generalize Nat.pow 2 1074 = scale at positive ⊢
  have short : (rank / 2).log2 - 52 = 0 := by
    by_cases zero : rank / 2 = 0
    · simp [zero]
    · have size : binade = 2 ^ 52 := rfl
      have bits := (Nat.log2_lt zero).mpr (show rank / 2 < 2 ^ 52 by omega)
      omega
  simp only [Nat.mul_div_mul_right _ _ positive, short, Nat.zero_mul, Nat.zero_add, Nat.pow_eq,
    pow_zero, Nat.mul_one]
  exact roundDiv_mul _ _ positive

theorem nearestRank_half_of_large {rank : Nat} (large : 2 * binade ≤ rank) :
    nearestRank (units rank) (Nat.pow 2 1075) = rank - binade := by
  have doubled : Nat.pow 2 1075 = Nat.pow 2 1074 * 2 := by decide +kernel
  obtain ⟨before, rfl⟩ : ∃ before, rank = before + binade := ⟨rank - binade, by omega⟩
  have halved := nearestRank_mul (units before) (Nat.pow 2 1074) Nat.zero_lt_two
  rw [units_add_binade (by omega), Nat.mul_comm 2, doubled, halved, nearestRank_units,
    Nat.add_sub_cancel]

/-- The step of the smallest doubles, 2^-1074. -/
def tiniest : Rat :=
  mkRat 1 (Nat.pow 2 1074)

/-- The double from which on all doubles have halves, 2^-1021. -/
def leastHalved : Rat :=
  mkRat 1 (Nat.pow 2 1021)

theorem leastHalved_eq : leastHalved = magnitude (2 * binade) := by decide +kernel

theorem half_eq {rank : Fin rankLimit} {r : Nat} (h : nearestRank (units rank) (Nat.pow 2 1075) = r)
    (le : r ≤ rank) :
    (Double.finite false rank).half.toRat? = some (magnitude r) := by
  have small : r < rankLimit := lt_of_le_of_lt le rank.isLt
  have rounded : (Double.finite false rank).half = .finite false ⟨r, small⟩ := by
    simp only [half, ofRatio, ofRank, h, small, dite_true]
  simp only [rounded, toRat?_finite, Bool.false_eq_true, if_false]

/-- Half of a double is off by half a step at most, and exact from 2^-1021 on. -/
theorem half_near {d : Double} {x : Rat} (h : d.toRat? = some x) (pos : 0 < x) :
    ∃ y, d.half.toRat? = some y ∧ |2 * y - x| ≤ tiniest ∧ (leastHalved ≤ x → 2 * y = x) := by
  cases d with
  | nan => cases h
  | infinite _ => cases h
  | finite negative rank =>
    obtain rfl := sign_of_pos h pos
    simp only [toRat?_finite, Bool.false_eq_true, if_false, Option.some.injEq] at h
    subst h
    have scale := scale_pos
    have size := binade_pos
    by_cases small : rank.val < 2 * binade
    · obtain ⟨upper, lower⟩ := roundDiv_two rank
      have less : roundDiv rank 2 ≤ rank := by
        rcases Nat.eq_zero_or_pos rank.val with zero | positive
        · simp [zero, roundDiv]
        · omega
      refine ⟨_, half_eq (nearestRank_half_of_small small) less, ?_, ?_⟩
      · simp only [magnitude_eq, tiniest, Rat.mkRat_eq_div, units_of_small small,
          units_of_small (lt_of_le_of_lt less small)]
        have upper' : 2 * (roundDiv rank 2 : Rat) ≤ rank.val + 1 := by exact_mod_cast upper
        have lower' : (rank.val : Rat) ≤ 2 * roundDiv rank 2 + 1 := by exact_mod_cast lower
        rw [← mul_div_assoc, ← sub_div, abs_div, abs_of_pos scale]
        apply div_le_div_of_nonneg_right _ scale.le
        rw [Int.cast_one, abs_le]
        constructor <;> linarith
      · intro large
        rw [leastHalved_eq] at large
        exact absurd (magnitude_lt_iff.mpr small) (not_lt.mpr large)
    · rw [not_lt] at small
      have halved : 2 * magnitude (rank.val - binade) = magnitude rank := by
        have parts : rank.val - binade + binade = rank := by omega
        have above : binade ≤ rank.val - binade := by omega
        have units_eq := units_add_binade above
        rw [parts] at units_eq
        rw [magnitude_eq, magnitude_eq, units_eq, Nat.cast_mul, Nat.cast_ofNat]
        exact (mul_div_assoc _ _ _).symm
      refine ⟨_, half_eq (nearestRank_half_of_large small) (Nat.sub_le _ _), ?_, fun _ => halved⟩
      rw [halved, sub_self, abs_zero]
      exact Rat.mkRat_nonneg (by decide) _

end Double

end BoxProbe
