/-
Module: BoxProbe.Proofs.Number.Spelling
Purpose: Which texts read as the double that is no number.
Trusted boundary: none
Main exports: Numeral.SpellsNan, Numeral.double?_eq_nan_iff
-/
import BoxProbe.Number.Numeral

namespace BoxProbe

/-!
A decimal reads as a finite number or an infinite one, so only the word for it reads as what is no
number.  Underscores are dropped between digits only, and this word has none.
-/

namespace Double

theorem ofRank_ne_nan (negative : Bool) (rank : Nat) : ofRank negative rank ≠ .nan := by
  unfold ofRank
  split <;> simp

theorem ofDecimal_ne_nan (negative : Bool) (mantissa : Nat) (exponent : Int) :
    ofDecimal negative mantissa exponent ≠ .nan := by
  unfold ofDecimal
  split
  next => exact ofRank_ne_nan _ _
  next =>
    simp only
    split
    next => simp
    next =>
      split
      next => exact ofRank_ne_nan _ _
      next => split <;> exact ofRank_ne_nan _ _

end Double

namespace Numeral

/-- The word `nan` in any case, perhaps with a sign. -/
def SpellsNan (cs : List Char) : Prop :=
  (splitSign cs).2.map Char.toLower = "nan".toList

theorem decimal?_ne_nan (negative : Bool) (cs : List Char) : decimal? negative cs ≠ some .nan := by
  intro h
  simp only [decimal?] at h
  split at h <;> split at h
  case isTrue => cases h
  case isTrue => cases h
  all_goals
    obtain ⟨e, -, same⟩ := Option.map_eq_some_iff.mp h
    exact Double.ofDecimal_ne_nan _ _ _ same

theorem unseparated?_eq_nan_iff (cs : List Char) : unseparated? cs = some .nan ↔ SpellsNan cs := by
  have spelled (word : List Char) (s : String) : String.ofList word = s ↔ word = s.toList := by
    rw [← String.ofList_inj, String.ofList_toList]
  simp only [unseparated?, SpellsNan, spelled]
  split
  next infinite =>
    rcases infinite with same | same <;> rw [same] <;> simp
  next =>
    split
    next same => simp [same]
    next other =>
      exact iff_of_false (decimal?_ne_nan _ _) other

/-! ### Underscores -/

theorem dropUnderscores?_cons {c : Char} (other : c ≠ '_') (afterDigit : Bool) (rest : List Char) :
    dropUnderscores? afterDigit (c :: rest) =
      (dropUnderscores? c.isDigit rest).map (c :: ·) := by
  cases afterDigit <;> simp [dropUnderscores?, other]

theorem dropUnderscores?_eq_self {cs : List Char} (plain : '_' ∉ cs) (afterDigit : Bool) :
    dropUnderscores? afterDigit cs = some cs := by
  induction cs generalizing afterDigit with
  | nil => cases afterDigit <;> rfl
  | cons c rest ih =>
    rw [List.mem_cons, not_or] at plain
    rw [dropUnderscores?_cons (Ne.symm plain.1), ih plain.2, Option.map_some]

/-- Where no digit is left, there was no underscore. -/
theorem eq_of_dropUnderscores? {cs left : List Char} {afterDigit : Bool}
    (h : dropUnderscores? afterDigit cs = some left) (words : ∀ c ∈ left, c.isDigit = false) :
    cs = left := by
  induction cs generalizing afterDigit left with
  | nil => cases afterDigit <;> exact Option.some.inj h
  | cons c rest ih =>
    by_cases underscore : c = '_'
    · -- An underscore that is dropped has a digit behind it, and that is left.
      subst underscore
      cases afterDigit with
      | false => cases h
      | true =>
        cases rest with
        | nil => cases h
        | cons digit more =>
          simp only [dropUnderscores?] at h
          split at h
          next isDigit =>
            have other : digit ≠ '_' := by
              rintro rfl
              cases isDigit
            rw [dropUnderscores?_cons other] at h
            obtain ⟨_, -, rfl⟩ := Option.map_eq_some_iff.mp h
            rw [words digit List.mem_cons_self] at isDigit
            cases isDigit
          next => cases h
    · rw [dropUnderscores?_cons underscore] at h
      obtain ⟨left, dropped, rfl⟩ := Option.map_eq_some_iff.mp h
      rw [ih dropped fun c inside => words c (List.mem_cons_of_mem _ inside)]

theorem toLower_of_isDigit {c : Char} (h : c.isDigit = true) : c.toLower = c := by
  simp only [Char.isDigit, Bool.and_eq_true, decide_eq_true_eq] at h
  unfold Char.toLower
  rw [dif_neg]
  rintro ⟨upper, -⟩
  have inOrder := UInt32.le_trans upper h.2
  revert inOrder
  decide

/-- Neither digits nor underscores stand in the word. -/
theorem SpellsNan.isLetter {cs : List Char} (h : SpellsNan cs) :
    ∀ c ∈ cs, c.isDigit = false ∧ c ≠ '_' := by
  have letter (c : Char) (lower : c.toLower ∈ "nan".toList) : c.isDigit = false ∧ c ≠ '_' := by
    constructor
    · rw [← Bool.not_eq_true]
      intro digit
      rw [toLower_of_isDigit digit] at lower
      have others : ∀ d ∈ "nan".toList, d.isDigit = false := by simp
      rw [others c lower] at digit
      cases digit
    · rintro rfl
      exact absurd lower (by decide)
  intro c inside
  have signed : c = '-' ∨ c = '+' ∨ c ∈ (splitSign cs).2 := by
    unfold splitSign
    split
    next => exact (List.mem_cons.mp inside).imp_right .inr
    next => exact .inr (List.mem_cons.mp inside)
    next => exact .inr (.inr inside)
  rcases signed with rfl | rfl | inside
  · decide
  · decide
  · exact letter c (h ▸ List.mem_map_of_mem inside)

/-- A text reads as what is no number exactly if it is the word for it. -/
theorem double?_eq_nan_iff (cs : List Char) : double? cs = some .nan ↔ SpellsNan cs := by
  unfold double?
  constructor
  · intro h
    obtain ⟨left, dropped, read⟩ := Option.bind_eq_some_iff.mp h
    have spelled := (unseparated?_eq_nan_iff left).mp read
    rwa [eq_of_dropUnderscores? dropped fun c inside => (spelled.isLetter c inside).1]
  · intro spelled
    have plain : '_' ∉ cs := fun inside => (spelled.isLetter _ inside).2 rfl
    rw [dropUnderscores?_eq_self plain, Option.bind_some]
    exact (unseparated?_eq_nan_iff cs).mpr spelled

end Numeral

end BoxProbe
