/-
Module: BoxProbe.Proofs.Number.Shortest
Purpose: The decimal that a double is written with rounds to the double.
Trusted boundary: none
Main exports: Decimal.toDouble_normalize, Double.toDouble_shortest, Double.mantissa_shortest_pos
-/
import BoxProbe.Number.Shortest
import BoxProbe.Proofs.Number.Rounding

namespace BoxProbe

/-!
Whatever grid the search stops at, the decimal it takes was checked to read back; behind the last
grid stands the exact value, which reads back too.  Zeros are then moved from the mantissa to the
exponent, which changes no value.
-/

theorem Decimal.toDouble_normalize (negative : Bool) (d : Decimal) :
    d.normalize.toDouble negative = d.toDouble negative := by
  fun_induction Decimal.normalize d with
  | case1 d zeros ih =>
    have whole : 10 * (d.mantissa / 10) = d.mantissa := by omega
    rw [ih, toDouble, toDouble, ← Double.ofDecimal_mul_ten, whole]
  | case2 => rfl

namespace Double

variable {rank : Nat}

theorem roundDiv_cases (num den : Nat) :
    roundDiv num den = num / den ∨ roundDiv num den = num / den + 1 := by
  simp only [roundDiv]
  split_ifs
  · exact .inl rfl
  · exact .inr rfl
  · rcases Nat.mod_two_eq_zero_or_one (num / den) with even | odd
    · exact .inl (by rw [even, Nat.add_zero])
    · exact .inr (by rw [odd])

/-- The neighbour that is taken has passed the check. -/
theorem passes_of_neighbor {passes : Decimal → Bool} {num den : Nat} {step : Int} {d : Decimal}
    (found : neighbor? passes num den step = some d) : passes d = true := by
  simp only [neighbor?] at found
  split at found <;> simp only [Option.some.injEq, reduceCtorEq] at found
  next low high =>
    rcases roundDiv_cases num den with same | next
    · rwa [← found, same]
    · rwa [← found, next]
  next low high => exact found ▸ low
  next low high => exact found ▸ high

/-- A decimal found on a grid reads back. -/
theorem toDouble_of_onGrid {digits : Nat} {d : Decimal} (found : onGrid? rank digits = some d) :
    d.toDouble false = ofRank false rank := by
  have passed : readsBack rank d = true := by
    simp only [onGrid?] at found
    split at found
    · exact passes_of_neighbor found
    · exact passes_of_neighbor found
  exact eq_of_beq passed

/-- The shortest decimal of a positive double reads back, with either sign. -/
theorem toDouble_shortest (pos : 0 < rank) (h : rank < rankLimit) (negative : Bool) :
    (shortest rank).toDouble negative = .finite negative ⟨rank, h⟩ := by
  have finite : ofRank false rank = .finite false ⟨rank, h⟩ := dif_pos h
  refine ofDecimal_sign ?_ negative
  change (shortest rank).toDouble false = _
  rw [shortest, Decimal.toDouble_normalize]
  cases found : (List.range 17).findSome? fun d => onGrid? rank (d + 1) with
  | none => exact ofDecimal_exact pos h
  | some d =>
    obtain ⟨digits, -, onGrid⟩ := List.exists_of_findSome?_eq_some found
    exact (toDouble_of_onGrid onGrid).trans finite

/-- A positive double has some digit that is no zero. -/
theorem mantissa_shortest_pos (pos : 0 < rank) (h : rank < rankLimit) :
    0 < (shortest rank).mantissa := by
  rw [Nat.pos_iff_ne_zero]
  intro zero
  have reads := toDouble_shortest pos h false
  have null : (shortest rank).toDouble false = .finite false ⟨0, by decide⟩ := if_pos zero
  simp only [null, Double.finite.injEq, Fin.mk.injEq, true_and] at reads
  omega

end Double

end BoxProbe
