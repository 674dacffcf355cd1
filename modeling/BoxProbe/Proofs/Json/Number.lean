/-
Module: BoxProbe.Proofs.Json.Number
Purpose: Integers and doubles are read back from the text that they are written with.
Trusted boundary: none
Main exports: Json.Closes, Json.scalar_intChars, Json.scalar_doubleChars
-/
import BoxProbe.Json.Printer
import BoxProbe.Json.Reader
import BoxProbe.Proofs.Number.Numeral
import BoxProbe.Proofs.Number.Shortest

namespace BoxProbe

/-!
A number in a text has no end of its own: it is read as far as it goes.  What follows a value in a
written text is a comma, a closing bracket or nothing, and none of these goes on with a number.
-/

namespace Json

/-- What may follow a value in a written text. -/
def Closes (rest : List Char) : Prop :=
  ∀ c ∈ rest.head?, c = ',' ∨ c = ']' ∨ c = '}'

/-- What does not go on with digits. -/
def EndsDigits (rest : List Char) : Prop :=
  ∀ c ∈ rest.head?, c.isDigit = false

theorem Closes.endsDigits {rest : List Char} (h : Closes rest) : EndsDigits rest := by
  intro c first
  rcases h c first with rfl | rfl | rfl <;> rfl

theorem endsDigits_cons {c : Char} (h : c.isDigit = false) (rest : List Char) :
    EndsDigits (c :: rest) := by
  intro d first
  cases Option.mem_some.mp first
  exact h

/-! ### The parts of a number -/

section Parts

variable {digits rest : List Char}

theorem takeWhile_digits (numeral : digits.all Char.isDigit = true) (stop : EndsDigits rest) :
    (digits ++ rest).takeWhile Char.isDigit = digits := by
  rw [List.takeWhile_append_of_pos (List.all_eq_true.mp numeral)]
  cases rest with
  | nil => simp
  | cons c more => simp [stop c rfl]

theorem dropWhile_digits (numeral : digits.all Char.isDigit = true) (stop : EndsDigits rest) :
    (digits ++ rest).dropWhile Char.isDigit = rest := by
  rw [List.dropWhile_append_of_pos (List.all_eq_true.mp numeral)]
  cases rest with
  | nil => rfl
  | cons c more => simp [stop c rfl]

theorem wholePart?_append (whole : Numeral.IsWhole digits) (stop : EndsDigits rest) :
    wholePart? (digits ++ rest) = some (digits, rest) := by
  rcases whole with rfl | ⟨nonempty, first, numeral⟩
  · rfl
  · cases digits with
    | nil => exact absurd rfl nonempty
    | cons c more =>
      have nonzero : c ≠ '0' := fun h => first (by rw [List.head?_cons, h])
      simp only [List.all_cons, Bool.and_eq_true] at numeral
      simp only [List.cons_append, wholePart?, nonzero, numeral.1, if_false, if_true,
        takeWhile_digits numeral.2 stop, dropWhile_digits numeral.2 stop]

theorem fractionPart_point (nonempty : digits ≠ []) (numeral : digits.all Char.isDigit = true)
    (stop : EndsDigits rest) : fractionPart ('.' :: (digits ++ rest)) = (digits, rest) := by
  simp [fractionPart, takeWhile_digits numeral stop, dropWhile_digits numeral stop, nonempty]

theorem fractionPart_of_ne (h : rest.head? ≠ some '.') : fractionPart rest = ([], rest) := by
  unfold fractionPart
  split
  · simp at h
  · rfl

theorem exponentPart_sign {sign : Char} (h : sign = '-' ∨ sign = '+') (nonempty : digits ≠ [])
    (numeral : digits.all Char.isDigit = true) (stop : EndsDigits rest) :
    exponentPart ('e' :: sign :: (digits ++ rest)) =
      (some (Numeral.signed (sign == '-') digits), rest) := by
  have split : Numeral.splitSign (sign :: (digits ++ rest)) = (sign == '-', digits ++ rest) := by
    rcases h with rfl | rfl <;> rfl
  simp [exponentPart, split, takeWhile_digits numeral stop, dropWhile_digits numeral stop, nonempty]

theorem Closes.fractionPart (h : Closes rest) : fractionPart rest = ([], rest) := by
  apply fractionPart_of_ne
  intro point
  have closing := h '.' point
  simp at closing

theorem Closes.exponentPart (h : Closes rest) : exponentPart rest = (none, rest) := by
  cases rest with
  | nil => rfl
  | cons c more => rcases h c rfl with rfl | rfl | rfl <;> rfl

end Parts

/-! ### Numbers as values -/

/-- A minus sign, or nothing. -/
def signChars (negative : Bool) : List Char :=
  if negative then ['-'] else []

/-- The number at the beginning of a text, from its parts. -/
theorem number?_eq (negative : Bool) {c : Char}
    {text whole fraction pointed raised rest : List Char}
    {exponent : Option Int} (digit : c.isDigit = true)
    (front : wholePart? (c :: text) = some (whole, pointed))
    (middle : fractionPart pointed = (fraction, raised))
    (back : exponentPart raised = (exponent, rest)) :
    number? (signChars negative ++ c :: text) =
      some (⟨negative, whole, fraction, exponent⟩, rest) := by
  have unsigned : c ≠ '-' := by
    rintro rfl
    simp at digit
  cases negative with
  | true => simp [number?, signChars, front, middle, back]
  | false =>
    unfold number?
    split
    next negative body same =>
      have plain : (negative, body) = (false, c :: text) := by
        rw [← same]
        simp [signChars, unsigned]
      obtain ⟨rfl, rfl⟩ := Prod.mk.inj plain
      simp [front, middle, back]

/-- A text that begins with a digit, or with a minus sign and a digit, is read as a number. -/
theorem scalar_of_number (negative : Bool) {c : Char} {text : List Char} (digit : c.isDigit = true)
    {token : NumberToken} {rest : List Char}
    (h : number? (signChars negative ++ c :: text) = some (token, rest)) :
    scalar (signChars negative ++ c :: text) = token.value.map fun v => (v, rest) := by
  -- No word and no quote begins like a number.
  have first {d : Char} {more : List Char} (same : signChars negative ++ c :: text = d :: more) :
      d.isDigit = true ∨ d = '-' ∧ more = c :: text := by
    cases negative with
    | true =>
      obtain ⟨rfl, rfl⟩ := List.cons.inj same
      exact .inr ⟨rfl, rfl⟩
    | false =>
      obtain ⟨rfl, -⟩ := List.cons.inj same
      exact .inl digit
  have foreign {d : Char} {more : List Char} (same : signChars negative ++ c :: text = d :: more)
      (other : d.isDigit = false) (unsigned : d ≠ '-') : False := by
    rcases first same with same | same
    · simp [other] at same
    · exact unsigned same.1
  unfold scalar
  split
  next same => exact (foreign same rfl (by decide)).elim
  next same => exact (foreign same rfl (by decide)).elim
  next same => exact (foreign same rfl (by decide)).elim
  next same => exact (foreign same rfl (by decide)).elim
  next same => exact (foreign same rfl (by decide)).elim
  next same => exact (foreign same rfl (by decide)).elim
  next same =>
    rcases first same with wrong | ⟨-, word⟩
    · cases wrong
    · obtain ⟨rfl, -⟩ := List.cons.inj word
      cases digit
  next => rw [h]

/-- A number is read from its parts: a whole number, what comes of a fraction and of an exponent,
and the rest. -/
theorem scalar_written (negative : Bool) {whole fraction pointed raised rest : List Char}
    {exponent : Option Int} (isWhole : Numeral.IsWhole whole) (stop : EndsDigits pointed)
    (middle : fractionPart pointed = (fraction, raised))
    (back : exponentPart raised = (exponent, rest)) :
    scalar (signChars negative ++ (whole ++ pointed)) =
      (NumberToken.value ⟨negative, whole, fraction, exponent⟩).map fun v => (v, rest) := by
  have front := wholePart?_append isWhole stop
  have numeral := isWhole.all_isDigit
  cases split : whole with
  | nil => exact absurd split isWhole.ne_nil
  | cons c more =>
    subst split
    simp only [List.all_cons, Bool.and_eq_true] at numeral
    exact scalar_of_number negative numeral.1
      (number?_eq negative numeral.1 front middle back)

/-- An integer of no more digits than may be written is read back. -/
theorem scalar_intChars {n : Int} (short : Numeral.isWritable n = true) {rest : List Char}
    (closes : Closes rest) : scalar (intChars n ++ rest) = .ok (.int n, rest) := by
  have written : intChars n = signChars (decide (n < 0)) ++ Nat.toDigits 10 n.natAbs := by
    by_cases negative : n < 0 <;> simp [intChars, signChars, negative]
  have fits : ¬ maxIntDigits < (Nat.toDigits 10 n.natAbs).length :=
    Nat.not_lt.mpr (of_decide_eq_true short)
  rw [written, List.append_assoc, scalar_written _ (Numeral.isWhole_toDigits _) closes.endsDigits
    closes.fractionPart closes.exponentPart]
  simp [NumberToken.value, fits, Numeral.signed_toDigits, Except.map]

/-! ### Doubles -/

section Doubles

variable {rest : List Char}

/-- A number with a point is the double nearest to the decimal that it denotes. -/
theorem scalar_point (negative : Bool) (whole fraction : List Char)
    (isWhole : Numeral.IsWhole whole) (nonempty : fraction ≠ [])
    (numeral : fraction.all Char.isDigit = true) (closes : Closes rest) :
    scalar (signChars negative ++ (whole ++ '.' :: (fraction ++ rest))) =
      .ok (.double (Double.ofDecimal negative (Numeral.natOf (whole ++ fraction))
        (-fraction.length)), rest) := by
  rw [scalar_written negative isWhole (endsDigits_cons rfl _)
    (fractionPart_point nonempty numeral closes.endsDigits) closes.exponentPart]
  simp [NumberToken.value, nonempty, Except.map]

/-- The fraction of a number with its point, if there is one. -/
def pointChars (fraction : List Char) : List Char :=
  if fraction.isEmpty then [] else '.' :: fraction

/-- A number with an exponent is the double nearest to the decimal that it denotes. -/
theorem scalar_exponent (negative : Bool) (whole fraction : List Char)
    (isWhole : Numeral.IsWhole whole) (numeral : fraction.all Char.isDigit = true) {sign : Char}
    {digits : List Char} (signed : sign = '-' ∨ sign = '+') (nonempty : digits ≠ [])
    (exponent : digits.all Char.isDigit = true) (closes : Closes rest) :
    scalar (signChars negative ++
        (whole ++ (pointChars fraction ++ 'e' :: sign :: (digits ++ rest)))) =
      .ok (.double (Double.ofDecimal negative (Numeral.natOf (whole ++ fraction))
        (Numeral.signed (sign == '-') digits - fraction.length)), rest) := by
  have stop : EndsDigits ('e' :: sign :: (digits ++ rest)) := endsDigits_cons rfl _
  have back := exponentPart_sign signed nonempty exponent closes.endsDigits
  have middle : fractionPart (pointChars fraction ++ 'e' :: sign :: (digits ++ rest)) =
      (fraction, 'e' :: sign :: (digits ++ rest)) := by
    cases fraction with
    | nil => exact fractionPart_of_ne (by simp [pointChars])
    | cons c more => exact fractionPart_point (List.cons_ne_nil c more) numeral stop
  have front : EndsDigits (pointChars fraction ++ 'e' :: sign :: (digits ++ rest)) := by
    cases fraction with
    | nil => exact stop
    | cons c more => exact endsDigits_cons rfl _
  rw [scalar_written negative isWhole front middle back]
  simp [NumberToken.value, Except.map]

/-! Of the digits of a positive number, some at the front are a whole number, and so are all of them
with zeros behind them. -/

section Digits

variable {digits : List Char} (nonempty : digits ≠ []) (first : digits.head? ≠ some '0')
  (numeral : digits.all Char.isDigit = true)
include nonempty first numeral

theorem isWhole_append_zeros (k : Nat) : Numeral.IsWhole (digits ++ List.replicate k '0') := by
  refine .inr ⟨List.append_ne_nil_of_left_ne_nil nonempty _, ?_, ?_⟩
  · cases digits with
    | nil => exact absurd rfl nonempty
    | cons c more => exact first
  · rw [List.all_append, numeral, Numeral.all_isDigit_zeros, Bool.and_true]

theorem isWhole_take {k : Nat} (pos : 0 < k) : Numeral.IsWhole (digits.take k) := by
  have part := Numeral.all_isDigit_of_subset (List.take_subset k digits) numeral
  cases digits with
  | nil => exact absurd rfl nonempty
  | cons c more =>
    obtain ⟨k, rfl⟩ := Nat.exists_eq_add_of_lt pos
    exact .inr ⟨by simp, by simpa using first, part⟩

end Digits

end Doubles

/-! ### Layouts of decimals -/

section Layout

variable {d : Decimal} {digits rest : List Char} (value : Numeral.natOf digits = d.mantissa)
  (nonempty : digits ≠ []) (first : digits.head? ≠ some '0')
  (numeral : digits.all Char.isDigit = true) (closes : Closes rest)
include value nonempty numeral closes

/-- A zero before the point, and some more behind it. -/
theorem scalar_below_one (negative : Bool) (k : Nat) (places : d.exponent = -(k + digits.length)) :
    scalar (signChars negative ++ (['0', '.'] ++ List.replicate k '0' ++ digits ++ rest)) =
      .ok (.double (d.toDouble negative), rest) := by
  have fraction : (List.replicate k '0' ++ digits).all Char.isDigit = true := by
    rw [List.all_append, Numeral.all_isDigit_zeros, numeral, Bool.and_true]
  have read := scalar_point negative ['0'] _ (.inl rfl)
    (List.append_ne_nil_of_right_ne_nil _ nonempty) fraction closes
  have mantissa : Numeral.natOf (['0'] ++ (List.replicate k '0' ++ digits)) = d.mantissa := by
    have zeros := Numeral.natOf_zeros_append (k + 1) digits
    rwa [List.replicate_succ, List.cons_append, value] at zeros
  have exponent : -((List.replicate k '0' ++ digits).length : Int) = d.exponent := by
    rw [places, List.length_append, List.length_replicate, Nat.cast_add]
  rw [mantissa, exponent] at read
  simpa [Decimal.toDouble] using read

include first

/-- All digits and some zeros before the point, and one behind it. -/
theorem scalar_integral (negative : Bool) (k : Nat) (places : d.exponent = k) :
    scalar (signChars negative ++ (digits ++ List.replicate k '0' ++ ['.', '0'] ++ rest)) =
      .ok (.double (d.toDouble negative), rest) := by
  have read := scalar_point negative _ ['0'] (isWhole_append_zeros nonempty first numeral k)
    (List.cons_ne_nil _ _) rfl closes
  have mantissa : Numeral.natOf (digits ++ List.replicate k '0' ++ ['0']) =
      d.mantissa * 10 ^ (k + 1) := by
    have zeros := Numeral.natOf_append_zeros digits (k + 1)
    rwa [List.replicate_succ', ← List.append_assoc, value] at zeros
  have exponent : (-(['0'].length : Nat) : Int) + ((k + 1 : Nat) : Int) = d.exponent := by
    simp only [places, List.length_singleton]
    omega
  rw [mantissa, Double.ofDecimal_mul_pow, exponent] at read
  simpa [Decimal.toDouble] using read

/-- The point stands among the digits. -/
theorem scalar_broken (negative : Bool) {k : Nat} (pos : 0 < k) (inside : k < digits.length)
    (places : d.exponent = k - digits.length) :
    scalar (signChars negative ++ (digits.take k ++ ['.'] ++ digits.drop k ++ rest)) =
      .ok (.double (d.toDouble negative), rest) := by
  have read := scalar_point negative (digits.take k) (digits.drop k)
    (isWhole_take nonempty first numeral pos) (by simpa using inside)
    (Numeral.all_isDigit_of_subset (List.drop_subset k digits) numeral) closes
  have exponent : -((digits.drop k).length : Int) = d.exponent := by
    rw [places, List.length_drop]
    omega
  rw [List.take_append_drop, value, exponent] at read
  simpa [Decimal.toDouble] using read

/-- One digit, the others behind a point, and an exponent. -/
theorem scalar_scientific (negative : Bool) {leading : Int}
    (places : d.exponent = leading - (digits.length - 1)) (filler : Nat) :
    scalar (signChars negative ++ (digits.take 1 ++ (if digits.length ≤ 1 then [] else ['.']) ++
        digits.drop 1 ++ ['e', if leading < 0 then '-' else '+'] ++ List.replicate filler '0' ++
        Nat.toDigits 10 leading.natAbs ++ rest)) =
      .ok (.double (d.toDouble negative), rest) := by
  have exponent : (List.replicate filler '0' ++ Nat.toDigits 10 leading.natAbs).all Char.isDigit =
      true := by
    rw [List.all_append, Numeral.all_isDigit_zeros, Numeral.all_isDigit_toDigits, Bool.and_true]
  have sign : (if leading < 0 then '-' else '+') = '-' ∨
      (if leading < 0 then '-' else '+') = '+' := by
    split
    · exact .inl rfl
    · exact .inr rfl
  have read := scalar_exponent negative (digits.take 1) (digits.drop 1)
    (isWhole_take nonempty first numeral Nat.one_pos)
    (Numeral.all_isDigit_of_subset (List.drop_subset 1 digits) numeral) sign
    (List.append_ne_nil_of_right_ne_nil _ Nat.toDigits_ne_nil) exponent closes
  have signed : Numeral.signed ((if leading < 0 then '-' else '+') == '-')
      (List.replicate filler '0' ++ Nat.toDigits 10 leading.natAbs) = leading := by
    have same : ((if leading < 0 then '-' else '+') == '-') = decide (leading < 0) := by
      split <;> simp_all
    rw [same, Numeral.signed, Numeral.natOf_zeros_append]
    exact Numeral.signed_toDigits leading
  have point : pointChars (digits.drop 1) =
      (if digits.length ≤ 1 then [] else ['.']) ++ digits.drop 1 := by
    by_cases single : digits.length ≤ 1
    · simp only [pointChars, List.drop_eq_nil_of_le single, single, if_true]
      rfl
    · have more : digits.drop 1 ≠ [] := fun none => single (List.drop_eq_nil_iff.mp none)
      rw [pointChars, List.isEmpty_eq_false_iff.mpr more, if_neg single]
      rfl
  have whole : leading - ((digits.drop 1).length : Int) = d.exponent := by
    have some_digits := List.length_pos_iff.mpr nonempty
    rw [places, List.length_drop]
    omega
  rw [List.take_append_drop, value, signed, whole, point] at read
  simpa [Decimal.toDouble] using read

end Layout

/-- A decimal is read back from its layout. -/
theorem scalar_layout (negative : Bool) {d : Decimal} (pos : 0 < d.mantissa) {rest : List Char}
    (closes : Closes rest) :
    scalar (signChars negative ++ (d.layout ++ rest)) =
      .ok (.double (d.toDouble negative), rest) := by
  have nonempty : Nat.toDigits 10 d.mantissa ≠ [] := Nat.toDigits_ne_nil
  have numeral := Numeral.all_isDigit_toDigits d.mantissa
  have value := Numeral.natOf_toDigits d.mantissa
  have first := Numeral.head?_toDigits_ne_zero pos
  have some_digits := List.length_pos_iff.mpr nonempty
  simp only [Decimal.layout]
  generalize Nat.toDigits 10 d.mantissa = digits at *
  split
  next positional =>
    split
    next small => exact scalar_below_one value nonempty numeral closes negative _ (by omega)
    next large =>
      split
      next => exact scalar_integral value nonempty first numeral closes negative _ (by omega)
      next =>
        exact scalar_broken value nonempty first numeral closes negative (by omega) (by omega)
          (by omega)
  next scientific =>
    have filled (exponent : List Char) : ∃ k,
        (if exponent.length < 2 then ['0'] else []) = List.replicate k '0' := by
      split
      · exact ⟨1, rfl⟩
      · exact ⟨0, rfl⟩
    obtain ⟨k, filler⟩ := filled (Nat.toDigits 10 (digits.length + d.exponent - 1).natAbs)
    rw [filler]
    exact scalar_scientific value nonempty first numeral closes negative (by omega) k

/-- Every double is read back. -/
theorem scalar_doubleChars (d : Double) {rest : List Char} (closes : Closes rest) :
    scalar (d.chars Double.jsonStyle ++ rest) = .ok (.double d, rest) := by
  cases d with
  | nan => rfl
  | infinite negative => cases negative <;> rfl
  | finite negative rank =>
    simp only [Double.chars, List.append_assoc]
    by_cases zero : rank.val = 0
    · have read := scalar_point negative ['0'] ['0'] (.inl rfl) (List.cons_ne_nil _ _) rfl closes
      have null (e : Int) : Double.ofDecimal negative (Numeral.natOf (['0'] ++ ['0'])) e =
          .finite negative rank :=
        (if_pos rfl).trans (congrArg (Double.finite negative) (Fin.ext zero.symm))
      rw [null] at read
      rw [if_pos zero]
      exact read
    · have pos := Nat.pos_of_ne_zero zero
      have read := scalar_layout negative (Double.mantissa_shortest_pos pos rank.isLt) closes
      rw [Double.toDouble_shortest pos rank.isLt negative] at read
      rw [if_neg zero]
      exact read

end Json

end BoxProbe
