/-
Module: BoxProbe.Proofs.Number.Rounding
Purpose: Rounding depends on the value of a quotient or decimal alone, and keeps every double.
Trusted boundary: none
Main exports: Double.nearestRank_mul, Double.nearestRank_units, Double.ofDecimal_mul_pow,
  Double.ofDecimal_exact, Double.ofDecimal_sign
-/
import BoxProbe.Proofs.Number.Double
import Mathlib.Tactic.Ring

namespace BoxProbe

/-!
A quotient may be expanded and a power of ten may be moved from the mantissa of a decimal to its
exponent without a change of what it rounds to.  The magnitude of a double rounds to the double
itself, as a quotient and as the decimal that is equal to it.
-/

/-! ### Quotients -/

theorem roundDiv_mul (num den : Nat) {k : Nat} (pos : 0 < k) :
    roundDiv (num * k) (den * k) = roundDiv num den := by
  simp only [roundDiv, Nat.mul_div_mul_right _ _ pos, Nat.mul_mod_mul_right, ← Nat.mul_assoc,
    Nat.mul_lt_mul_right pos]

theorem roundDiv_mul_self (n : Nat) {den : Nat} (pos : 0 < den) : roundDiv (n * den) den = n := by
  simp [roundDiv, Nat.mul_div_cancel _ pos, pos]

namespace Double

theorem nearestRank_mul (num den : Nat) {k : Nat} (pos : 0 < k) :
    nearestRank (num * k) (den * k) = nearestRank num den := by
  have scaled : num * k * Nat.pow 2 1074 = num * Nat.pow 2 1074 * k := by ring
  have stepped (step : Nat) : den * k * step = den * step * k := by ring
  simp only [nearestRank, scaled, stepped, Nat.mul_div_mul_right _ _ pos, roundDiv_mul _ _ pos]

/-- The binade of a rank is read off the length of its units. -/
theorem log2_units (rank : Nat) : (units rank).log2 - 52 = rank / binade - 1 := by
  have size : binade = 2 ^ 52 := rfl
  by_cases small : rank < binade
  · have subnormal : units rank = rank := if_pos small
    have block : rank / binade = 0 := Nat.div_eq_of_lt small
    by_cases zero : rank = 0
    · simp [zero, units, binade]
    · have short := (Nat.log2_lt zero).mpr (size ▸ small)
      rw [subnormal]
      omega
  · have large : binade ≤ rank := Nat.le_of_not_lt small
    have block : 1 ≤ rank / binade := (Nat.one_le_div_iff (by decide)).mpr large
    have inside := Nat.mod_lt rank (show 0 < binade by decide)
    have normal : units rank = (binade + rank % binade) * 2 ^ (rank / binade - 1) := if_neg small
    -- A normal number has 53 bits before its exponent.
    have lower : 2 ^ 52 * 2 ^ (rank / binade - 1) ≤ units rank :=
      normal ▸ Nat.mul_le_mul_right _ (by omega)
    have upper : units rank < 2 ^ 53 * 2 ^ (rank / binade - 1) :=
      normal ▸ Nat.mul_lt_mul_of_pos_right (by omega) (Nat.two_pow_pos _)
    rw [← pow_add] at lower upper
    have length : (units rank).log2 = 52 + (rank / binade - 1) := by
      rw [Nat.log2_eq_iff (by have := Nat.two_pow_pos (52 + (rank / binade - 1)); omega)]
      exact ⟨lower, by rwa [Nat.add_right_comm]⟩
    omega

/-- The magnitude of a rank rounds to the rank. -/
theorem nearestRank_units (rank : Nat) : nearestRank (units rank) (Nat.pow 2 1074) = rank := by
  have positive : 0 < Nat.pow 2 1074 := by decide +kernel
  unfold nearestRank
  generalize Nat.pow 2 1074 = scale at positive ⊢
  simp only [Nat.mul_div_cancel _ positive, log2_units]
  rw [Nat.mul_comm scale, roundDiv_mul _ _ positive]
  by_cases small : rank < binade
  · have block : rank / binade = 0 := Nat.div_eq_of_lt small
    have exact_units : units rank = rank * 1 := by simp [units, small]
    simp only [block, Nat.zero_sub, Nat.zero_mul, Nat.zero_add, Nat.pow_eq, pow_zero, exact_units]
    exact roundDiv_mul_self rank Nat.one_pos
  · have large : binade ≤ rank := Nat.le_of_not_lt small
    have block : 1 ≤ rank / binade := (Nat.one_le_div_iff (by decide)).mpr large
    have normal : units rank = (binade + rank % binade) * Nat.pow 2 (rank / binade - 1) :=
      if_neg small
    have step : 0 < Nat.pow 2 (rank / binade - 1) := Nat.pow_pos (by decide)
    rw [normal, roundDiv_mul_self _ step]
    have parts := Nat.div_add_mod rank binade
    have block_eq : rank / binade - 1 + 1 = rank / binade := by omega
    calc (rank / binade - 1) * binade + (binade + rank % binade)
        = binade * (rank / binade - 1 + 1) + rank % binade := by ring
      _ = rank := by rw [block_eq, parts]

/-! ### Decimals -/

theorem digitCount_mul_ten {m : Nat} (pos : 0 < m) : digitCount (10 * m) = digitCount m + 1 := by
  have appended := Nat.toDigits_append_toDigits (b := 10) (n := m) (d := 0) (by decide) pos
    (by decide)
  rw [Nat.add_zero] at appended
  simp [digitCount, ← appended]

/-- A zero at the end of the mantissa counts as much as one more in the exponent. -/
theorem ofDecimal_mul_ten (negative : Bool) (m : Nat) (e : Int) :
    ofDecimal negative (10 * m) e = ofDecimal negative m (e + 1) := by
  by_cases zero : m = 0
  · simp [ofDecimal, zero]
  · have nonzero : 10 * m ≠ 0 := by omega
    have magnitude : ((digitCount (10 * m) : Nat) : Int) + e = digitCount m + (e + 1) := by
      rw [digitCount_mul_ten (Nat.pos_of_ne_zero zero)]
      push_cast
      ring
    simp only [ofDecimal, zero, nonzero, if_false, magnitude]
    congr 2
    match e with
    | .ofNat n =>
      have shifted : 10 * m * Nat.pow 10 n = m * Nat.pow 10 (n + 1) := by
        simp only [Nat.pow_eq, pow_succ]
        ring
      exact congrArg (ofRatio negative · 1) shifted
    | .negSucc 0 =>
      have expanded := nearestRank_mul m 1 (show 0 < 10 by decide)
      have same : nearestRank (10 * m) (Nat.pow 10 1) = nearestRank (m * Nat.pow 10 0) 1 := by
        rw [Nat.mul_comm 10 m, show m * Nat.pow 10 0 = m from Nat.mul_one m]
        exact expanded
      exact congrArg (ofRank negative) same
    | .negSucc (n + 1) =>
      have expanded := nearestRank_mul m (Nat.pow 10 (n + 1)) (show 0 < 10 by decide)
      have same :
          nearestRank (10 * m) (Nat.pow 10 (n + 2)) = nearestRank m (Nat.pow 10 (n + 1)) := by
        rw [Nat.mul_comm 10 m]
        exact expanded
      exact congrArg (ofRank negative) same

theorem ofDecimal_mul_pow (negative : Bool) (m : Nat) (e : Int) (k : Nat) :
    ofDecimal negative (m * 10 ^ k) e = ofDecimal negative m (e + k) := by
  induction k generalizing e with
  | zero => simp
  | succ k ih =>
    have moved : m * 10 ^ (k + 1) = 10 * (m * 10 ^ k) := by ring
    rw [moved, ofDecimal_mul_ten, ih]
    congr 1
    push_cast
    ring

/-- The sign of a decimal is that of the double it rounds to. -/
theorem ofDecimal_sign {m : Nat} {e : Int} {rank : Fin rankLimit}
    (h : ofDecimal false m e = .finite false rank) (negative : Bool) :
    ofDecimal negative m e = .finite negative rank := by
  have signed (r : Nat) (h : ofRank false r = .finite false rank) :
      ofRank negative r = .finite negative rank := by
    unfold ofRank at h ⊢
    split at h
    next small =>
      simp only [Double.finite.injEq, true_and] at h
      simp [small, h]
    next => simp at h
  simp only [ofDecimal] at h ⊢
  split_ifs at h ⊢
  · exact signed 0 h
  · exact signed 0 h
  · cases e with
    | ofNat n => exact signed _ h
    | negSucc n => exact signed _ h

/-- The units of a rank have 53 bits before the exponent of its binade. -/
theorem units_lt {rank : Nat} (e : Nat) (h : rank < (e + 2) * binade) :
    units rank < Nat.pow 2 53 * Nat.pow 2 e := by
  by_cases small : rank < binade
  · have short : binade ≤ Nat.pow 2 53 := by decide
    simp only [units, small, if_true]
    exact small.trans_le (short.trans (Nat.le_mul_of_pos_right _ (Nat.two_pow_pos e)))
  · have inside := Nat.mod_lt rank (show 0 < binade by decide)
    have block : rank / binade < e + 2 := (Nat.div_lt_iff_lt_mul (by decide)).mpr h
    have double : binade + binade = Nat.pow 2 53 := by decide
    simp only [units, small, if_false]
    calc (binade + rank % binade) * Nat.pow 2 (rank / binade - 1)
        < Nat.pow 2 53 * Nat.pow 2 (rank / binade - 1) :=
          Nat.mul_lt_mul_of_pos_right (by omega) (Nat.two_pow_pos _)
      _ ≤ Nat.pow 2 53 * Nat.pow 2 e :=
          Nat.mul_le_mul_left _ (Nat.pow_le_pow_right (by decide) (by omega))

theorem digitCount_mul_le {n limit factor k : Nat} (bound : n < limit) (pos : 0 < factor)
    (some_digits : 0 < k) (most : limit * factor ≤ 10 ^ k) : digitCount (n * factor) ≤ k := by
  rw [digitCount, Nat.length_toDigits_le_iff (by decide) some_digits]
  exact (Nat.mul_lt_mul_of_pos_right bound pos).trans_le most

theorem lt_digitCount_mul {n factor k : Nat} (pos : 0 < n) (some_digits : 0 < k)
    (least : 10 ^ k ≤ factor) : k < digitCount (n * factor) := by
  rw [← Nat.not_le, digitCount, Nat.length_toDigits_le_iff (by decide) some_digits, Nat.not_lt]
  exact least.trans (Nat.le_mul_of_pos_left factor pos)

/-- Between the two ends of the range a decimal fraction is rounded as a quotient. -/
theorem ofDecimal_fraction {m places : Nat} (negative : Bool) (nonzero : m ≠ 0)
    (bounded : digitCount m ≤ 310 + (places + 1)) (visible : places + 1 ≤ digitCount m + 330) :
    ofDecimal negative m (.negSucc places) = ofRatio negative m (Nat.pow 10 (places + 1)) := by
  have least : ¬ ((digitCount m : Nat) : Int) + .negSucc places < -330 := by omega
  have most : ¬ (310 : Int) < digitCount m + .negSucc places := by omega
  simp only [ofDecimal, nonzero, least, most, if_false]

/-- The decimal that is equal to the magnitude of a rank rounds to the rank. -/
theorem ofDecimal_exact {rank : Nat} (pos : 0 < rank) (h : rank < rankLimit) :
    ofDecimal false (units rank * Nat.pow 5 1074) (-1074) = .finite false ⟨rank, h⟩ := by
  have some_units := units_pos pos
  have fives : 0 < Nat.pow 5 1074 := by decide +kernel
  have nonzero : units rank * Nat.pow 5 1074 ≠ 0 := (Nat.mul_pos some_units fives).ne'
  -- The mantissa has between 744 and 1384 digits, so the range of exponents does not matter.
  have short : digitCount (units rank * Nat.pow 5 1074) ≤ 1384 :=
    digitCount_mul_le (units_lt 2045 h) fives (by decide) (by decide +kernel)
  have long : 743 < digitCount (units rank * Nat.pow 5 1074) :=
    lt_digitCount_mul some_units (by decide) (by decide +kernel)
  have quotient := ofDecimal_fraction false nonzero short (show 1073 + 1 ≤ _ by omega)
  have tens : Nat.pow 10 (1073 + 1) = Nat.pow 2 1074 * Nat.pow 5 1074 := by decide +kernel
  have rounded := (nearestRank_mul (units rank) (Nat.pow 2 1074) fives).trans
    (nearestRank_units rank)
  rw [ofRatio, tens, rounded] at quotient
  exact quotient.trans (dif_pos h)

end Double

end BoxProbe
