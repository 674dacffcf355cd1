/-
Module: BoxProbe.Proofs.Text.Surrogates
Purpose: Code points beyond 0xFFFF as pairs of surrogates, and texts without such pairs.
Trusted boundary: none
Main exports: CodePoint.halves, Text.Joined, Text.joined_joinPairs, Text.joinPairs_halves,
  Text.Joined.joinPairs_eq
-/
import BoxProbe.Text.Basic
import Mathlib.Data.List.Chain

namespace BoxProbe

/-!
An escape names sixteen bits, so a code point beyond 0xFFFF is written as two surrogates, and a high
surrogate that a low one follows is read as one code point.  The halves of a text are joined as the
text itself, so a text in which no such pair is left comes back from its halves.
-/

namespace CodePoint

/-- The code points that a code point is written as: itself, or a high and a low surrogate. -/
def halves (c : CodePoint) : Text :=
  if c.val < 0x10000 then [c]
  else [ofNat (0xD800 + (c.val - 0x10000) / 0x400), ofNat (0xDC00 + (c.val - 0x10000) % 0x400)]

theorem val_ofNat {n : Nat} (h : n < 0x110000) : (ofNat n).val = n :=
  Nat.mod_eq_of_lt h

theorem ofNat_val (c : CodePoint) : ofNat c.val = c :=
  Fin.ext (val_ofNat c.isLt)

@[simp]
theorem halves_of_lt {c : CodePoint} (h : c.val < 0x10000) : c.halves = [c] :=
  if_pos h

/-- The two halves of a code point, and how they are put together again. -/
theorem halves_of_ge {c : CodePoint} (h : 0x10000 ≤ c.val) :
    ∃ high low : CodePoint, c.halves = [high, low] ∧ high.isHighSurrogate = true ∧
      low.isLowSurrogate = true ∧ joined high low = c := by
  have most := c.isLt
  have low_lt := Nat.mod_lt (c.val - 0x10000) (show 0 < 0x400 by decide)
  have whole := Nat.div_add_mod (c.val - 0x10000) 0x400
  have high_val := val_ofNat (n := 0xD800 + (c.val - 0x10000) / 0x400) (by omega)
  have low_val := val_ofNat (n := 0xDC00 + (c.val - 0x10000) % 0x400) (by omega)
  refine ⟨_, _, if_neg (by omega), ?_, ?_, ?_⟩
  · simp only [isHighSurrogate, high_val, Bool.and_eq_true, decide_eq_true_eq]
    omega
  · simp only [isLowSurrogate, low_val, Bool.and_eq_true, decide_eq_true_eq]
    omega
  · apply Fin.ext
    simp only [joined, high_val, low_val]
    rw [val_ofNat (by omega)]
    omega

theorem not_low_of_high {c : CodePoint} (h : c.isHighSurrogate = true) :
    c.isLowSurrogate = false := by
  simp only [isHighSurrogate, isLowSurrogate, Bool.and_eq_true, Bool.and_eq_false_iff,
    decide_eq_true_eq, decide_eq_false_iff_not] at h ⊢
  omega

theorem val_joined {high low : CodePoint} (h : high.isHighSurrogate = true)
    (l : low.isLowSurrogate = true) :
    (joined high low).val = 0x10000 + (high.val - 0xD800) * 0x400 + (low.val - 0xDC00) := by
  simp only [isHighSurrogate, isLowSurrogate, Bool.and_eq_true, decide_eq_true_eq] at h l
  exact val_ofNat (by omega)

theorem not_surrogate_of_val {c : CodePoint} (h : c.val < 0xD800 ∨ 0xDFFF < c.val) :
    c.isHighSurrogate = false ∧ c.isLowSurrogate = false := by
  refine ⟨Bool.eq_false_iff.mpr fun inside => ?_, Bool.eq_false_iff.mpr fun inside => ?_⟩
  · simp only [isHighSurrogate, Bool.and_eq_true, decide_eq_true_eq] at inside
    omega
  · simp only [isLowSurrogate, Bool.and_eq_true, decide_eq_true_eq] at inside
    omega

theorem lt_of_high {c : CodePoint} (h : c.isHighSurrogate = true) : c.val < 0x10000 := by
  simp only [isHighSurrogate, Bool.and_eq_true, decide_eq_true_eq] at h
  omega

theorem lt_of_low {c : CodePoint} (h : c.isLowSurrogate = true) : c.val < 0x10000 := by
  simp only [isLowSurrogate, Bool.and_eq_true, decide_eq_true_eq] at h
  omega

/-- A joined pair is no surrogate. -/
theorem joined_not_surrogate {high low : CodePoint} (h : high.isHighSurrogate = true)
    (l : low.isLowSurrogate = true) :
    (joined high low).isHighSurrogate = false ∧ (joined high low).isLowSurrogate = false := by
  have value := val_joined h l
  exact not_surrogate_of_val (by omega)

/-- No character is a surrogate. -/
theorem ofChar_not_surrogate (c : Char) :
    (ofChar c).isHighSurrogate = false ∧ (ofChar c).isLowSurrogate = false := by
  have valid : c.toNat.isValidChar := c.valid
  unfold Nat.isValidChar at valid
  exact not_surrogate_of_val (valid.imp id And.left)

end CodePoint

namespace Text

/-- Whether two neighbours are a pair of surrogates. -/
def IsPair (c d : CodePoint) : Prop :=
  c.isHighSurrogate = true ∧ d.isLowSurrogate = true

/-- A text in which every pair of surrogates is joined. -/
def Joined (t : Text) : Prop :=
  t.IsChain fun c d => ¬ IsPair c d

theorem joinPairs_pair {c d : CodePoint} (h : IsPair c d) (rest : Text) :
    joinPairs (c :: d :: rest) = CodePoint.joined c d :: joinPairs rest := by
  simp [joinPairs, h.1, h.2]

/-- What no low surrogate follows stays as it is. -/
theorem joinPairs_cons {c : CodePoint} {t : Text} (h : ∀ d ∈ t.head?, ¬ IsPair c d) :
    joinPairs (c :: t) = c :: joinPairs t := by
  cases t with
  | nil => rfl
  | cons d rest =>
    have single : (c.isHighSurrogate && d.isLowSurrogate) = false := by
      have apart := h d rfl
      rw [Bool.eq_false_iff]
      intro pair
      exact apart (Bool.and_eq_true_iff.mp pair)
    simp [joinPairs, single]

/-- No text that was joined begins with another low surrogate than before. -/
theorem head?_joinPairs {t : Text} {d : CodePoint} (h : d ∈ t.joinPairs.head?) :
    d ∈ t.head? ∨ d.isLowSurrogate = false := by
  match t with
  | [] => exact .inl h
  | [c] => exact .inl h
  | c :: e :: rest =>
    by_cases pair : IsPair c e
    · rw [joinPairs_pair pair, List.head?_cons, Option.mem_some] at h
      exact .inr (h ▸ (CodePoint.joined_not_surrogate pair.1 pair.2).2)
    · rw [joinPairs_cons (t := e :: rest) (by simpa using pair), List.head?_cons] at h
      exact .inl h

/-- Joining leaves no pair behind. -/
theorem joined_joinPairs (t : Text) : t.joinPairs.Joined := by
  fun_induction joinPairs t with
  | case1 => exact .nil
  | case2 c => exact .singleton c
  | case3 c d rest pair ih =>
    have surrogates := Bool.and_eq_true_iff.mp pair
    refine List.isChain_cons.mpr ⟨?_, ih⟩
    rintro e - ⟨high, -⟩
    rw [(CodePoint.joined_not_surrogate surrogates.1 surrogates.2).1] at high
    cases high
  | case4 c d rest single ih =>
    refine List.isChain_cons.mpr ⟨?_, ih⟩
    rintro e first ⟨high, low⟩
    rcases head?_joinPairs first with same | other
    · obtain rfl := Option.mem_some.mp same
      exact single (Bool.and_eq_true_iff.mpr ⟨high, low⟩)
    · rw [other] at low
      cases low

/-- The halves of a text begin with a low surrogate only if the text does. -/
theorem head?_halves {t : Text} {d : CodePoint} (h : d ∈ (t.flatMap CodePoint.halves).head?) :
    d ∈ t.head? ∨ d.isLowSurrogate = false := by
  cases t with
  | nil => exact .inl h
  | cons c rest =>
    by_cases small : c.val < 0x10000
    · rw [List.flatMap_cons, CodePoint.halves_of_lt small] at h
      exact .inl h
    · obtain ⟨high, low, halves, isHigh, -⟩ := CodePoint.halves_of_ge (Nat.le_of_not_lt small)
      rw [List.flatMap_cons, halves] at h
      obtain rfl := Option.mem_some.mp h
      exact .inr (CodePoint.not_low_of_high isHigh)

/-- The halves of a text are joined as the text itself. -/
theorem joinPairs_halves (t : Text) : joinPairs (t.flatMap CodePoint.halves) = joinPairs t := by
  -- A code point beyond 0xFFFF is joined from its own halves, whatever stands around it.
  have large {c : CodePoint} (h : ¬ c.val < 0x10000) (rest : Text) :
      joinPairs (c.halves ++ rest) = c :: joinPairs rest := by
    obtain ⟨high, low, halves, isHigh, isLow, whole⟩ :=
      CodePoint.halves_of_ge (Nat.le_of_not_lt h)
    rw [halves, List.cons_append, List.singleton_append, joinPairs_pair ⟨isHigh, isLow⟩, whole]
  have small {c : CodePoint} (h : c.val < 0x10000) (rest : Text) :
      c.halves ++ rest = c :: rest := by
    rw [CodePoint.halves_of_lt h, List.singleton_append]
  fun_induction joinPairs t with
  | case1 => rfl
  | case2 c =>
    by_cases h : c.val < 0x10000
    · simp [CodePoint.halves_of_lt h, joinPairs]
    · exact large h []
  | case3 c d rest pair ih =>
    have surrogates := Bool.and_eq_true_iff.mp pair
    have high := CodePoint.lt_of_high surrogates.1
    have low := CodePoint.lt_of_low surrogates.2
    rw [List.flatMap_cons, List.flatMap_cons, small high, small low, joinPairs_pair surrogates, ih]
  | case4 c d rest single ih =>
    rw [List.flatMap_cons]
    by_cases h : c.val < 0x10000
    · rw [small h, joinPairs_cons, ih]
      rintro e first ⟨high, low⟩
      rcases head?_halves first with same | other
      · obtain rfl := Option.mem_some.mp same
        exact single (Bool.and_eq_true_iff.mpr ⟨high, low⟩)
      · rw [other] at low
        cases low
    · rw [large h, ih]

/-- A joined text stays as it is. -/
theorem Joined.joinPairs_eq {t : Text} (h : t.Joined) : joinPairs t = t := by
  induction t with
  | nil => rfl
  | cons c rest ih =>
    obtain ⟨apart, others⟩ := List.isChain_cons.mp h
    rw [joinPairs_cons apart, ih others]

theorem joinPairs_eq_iff {t : Text} : joinPairs t = t ↔ t.Joined := by
  refine ⟨fun same => ?_, Joined.joinPairs_eq⟩
  rw [← same]
  exact joined_joinPairs t

/-- Ordinary strings have no surrogates at all. -/
theorem joined_ofString (s : String) : (ofString s).Joined := by
  unfold ofString
  induction s.toList with
  | nil => exact .nil
  | cons c rest ih =>
    refine List.isChain_cons.mpr ⟨?_, ih⟩
    rintro d - ⟨high, -⟩
    rw [(CodePoint.ofChar_not_surrogate c).1] at high
    cases high

end Text

end BoxProbe
