/-
Module: BoxProbe.Proofs.Json.Text
Purpose: Strings are read back from the text that they are written with.
Trusted boundary: none
Main exports: Json.hexPoint?_hexDigits, Json.stringBody_stringPoint, Json.scalar_stringChars,
  Json.joined_of_string
-/
import BoxProbe.Json.Printer
import BoxProbe.Json.Reader
import BoxProbe.Proofs.Text.Surrogates

namespace BoxProbe.Json

/-!
Every code point of a string is written as one or two escapes, or as itself, and none of these goes
on with what follows it.  So a string is read point by point, and in the end the pairs of surrogates
that it has are joined.
-/

theorem hexValue?_digitChar {d : Nat} (h : d < 16) : hexValue? (Nat.digitChar d) = some d := by
  revert d
  decide

/-- Four hexadecimal digits of a number are read as the number. -/
theorem hexPoint?_hexDigits {n : Nat} (h : n < 0x10000) :
    ∃ a b c d, hexDigits 4 n = [a, b, c, d] ∧ hexPoint? a b c d = some (CodePoint.ofNat n) := by
  refine ⟨_, _, _, _, rfl, ?_⟩
  simp only [hexPoint?, hexValue?_digitChar (Nat.mod_lt _ (show 0 < 16 by decide)),
    Option.some.injEq]
  congr 1
  omega

variable {opening more : List Char}

/-- An escape with four digits, if there is something behind it. -/
theorem stringBody_escape {n : Nat} (h : n < 0x10000) (nonempty : more ≠ []) :
    stringBody opening (['\\', 'u'] ++ hexDigits 4 n ++ more) =
      (stringBody opening more).map fun r => (CodePoint.ofNat n :: r.1, r.2) := by
  obtain ⟨a, b, c, d, digits, point⟩ := hexPoint?_hexDigits h
  simp [digits, stringBody, nonempty, point]

/-- An escape with one letter. -/
theorem stringBody_letter {letter e : Char} (h : escapeOf? letter = some e) :
    stringBody opening ('\\' :: letter :: more) =
      (stringBody opening more).map fun r => (CodePoint.ofChar e :: r.1, r.2) := by
  have other : letter ≠ 'u' := by
    rintro rfl
    cases h
  simp only [stringBody, h]

/-- A character that needs no escape. -/
theorem stringBody_plain {c : Char} (quote : c ≠ '"') (backslash : c ≠ '\\') (h : 0x20 ≤ c.toNat) :
    stringBody opening (c :: more) =
      (stringBody opening more).map fun r => (CodePoint.ofChar c :: r.1, r.2) := by
  have printable : ¬ c.toNat < 0x20 := Nat.not_lt.mpr h
  simp [stringBody, backslash, printable]

/-- What is written for a code point is read as its halves. -/
theorem stringBody_stringPoint (c : CodePoint) (nonempty : more ≠ []) :
    stringBody opening (stringPoint c ++ more) =
      (stringBody opening more).map fun r => (c.halves ++ r.1, r.2) := by
  have single {e : Char} (same : c.val = e.toNat) (small : c.val < 0x10000) :
      (fun r : Text × List Char => (c.halves ++ r.1, r.2)) =
        fun r => (CodePoint.ofChar e :: r.1, r.2) := by
    rw [CodePoint.halves_of_lt small, show c = CodePoint.ofChar e from Fin.ext same]
    rfl
  have letter {e l : Char} (h : escapeOf? l = some e) (same : c.val = e.toNat)
      (small : c.val < 0x10000) : stringBody opening (['\\', l] ++ more) =
      (stringBody opening more).map fun r => (c.halves ++ r.1, r.2) := by
    rw [single same small]
    exact stringBody_letter h
  simp only [stringPoint]
  split_ifs with quote backslash lineFeed carriageReturn tab formFeed backspace printable
  · exact letter (e := '"') rfl quote (by omega)
  · exact letter (e := '\\') rfl backslash (by omega)
  · exact letter (e := '\n') rfl lineFeed (by omega)
  · exact letter (e := '\r') rfl carriageReturn (by omega)
  · exact letter (e := '\t') rfl tab (by omega)
  · exact letter (e := '\x0c') rfl formFeed (by omega)
  · exact letter (e := '\x08') rfl backspace (by omega)
  · have valid : c.val.isValidChar := .inl (by omega)
    have same : (Char.ofNat c.val).toNat = c.val := by
      rw [Char.ofNat, dif_pos valid]
      rfl
    rw [single same.symm (by omega), List.singleton_append]
    refine stringBody_plain ?_ ?_ (by omega)
    · intro h
      rw [h] at same
      exact quote same.symm
    · intro h
      rw [h] at same
      exact backslash same.symm
  · -- Beyond ASCII a code point is one escape or two.
    unfold escaped
    split
    next small =>
      rw [stringBody_escape small nonempty, CodePoint.ofNat_val, CodePoint.halves_of_lt small]
      rfl
    next large =>
      have most := c.isLt
      have low_lt := Nat.mod_lt (c.val - 0x10000) (show 0 < 0x400 by decide)
      rw [List.append_assoc, stringBody_escape (by omega) (by simp),
        stringBody_escape (by omega) nonempty, CodePoint.halves, if_neg large]
      cases stringBody opening more <;> rfl

/-- A string is read back up to its closing quote, in halves. -/
theorem stringBody_points (t : Text) (rest : List Char) :
    stringBody opening (t.flatMap stringPoint ++ '"' :: rest) =
      .ok (t.flatMap CodePoint.halves, rest) := by
  induction t with
  | nil => simp [stringBody]
  | cons c more ih =>
    rw [List.flatMap_cons, List.append_assoc, stringBody_stringPoint c (by simp), ih,
      List.flatMap_cons]
    rfl

/-- Behind its opening quote a string is read back, with its pairs of surrogates joined. -/
theorem string_points (t : Text) (rest : List Char) :
    string opening (t.flatMap stringPoint ++ '"' :: rest) = .ok (t.joinPairs, rest) := by
  rw [string, stringBody_points]
  simp [Except.map, Text.joinPairs_halves]

theorem stringChars_append (t : Text) (rest : List Char) :
    stringChars t ++ rest = '"' :: (t.flatMap stringPoint ++ '"' :: rest) := by
  simp [stringChars]

theorem scalar_stringChars (t : Text) (rest : List Char) :
    scalar (stringChars t ++ rest) = .ok (.str t.joinPairs, rest) := by
  rw [stringChars_append]
  exact congrArg (Except.map fun r => (Json.str r.1, r.2)) (string_points t rest)

/-- What is read as a string has no pairs of surrogates. -/
theorem joined_of_string {text rest : List Char} {t : Text}
    (h : string opening text = .ok (t, rest)) : t.Joined := by
  rw [string] at h
  cases body : stringBody opening text with
  | error fault => simp [body, Except.map] at h
  | ok r =>
    simp only [body, Except.map, Except.ok.injEq, Prod.mk.injEq] at h
    rw [← h.1]
    exact Text.joined_joinPairs r.1

end BoxProbe.Json
