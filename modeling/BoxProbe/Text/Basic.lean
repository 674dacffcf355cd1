/-
Module: BoxProbe.Text.Basic
Purpose: Text as a list of code points, surrogates included.
Main exports: CodePoint, Text, Text.ofString, Text.toString?, Text.joinPairs
-/

/-!
A JSON string may name any code point by an escape, a lone surrogate too, so the strings that come
out of a frame are lists of code points and not lists of characters.  `Text.ofString` embeds
ordinary strings, and `Text.toString?` is its partial inverse: it fails exactly on a text with a
surrogate in it.
-/

namespace BoxProbe

/-- A code point: any number below 0x110000, the surrogates among them. -/
abbrev CodePoint := Fin 0x110000

/-- A text is its code points in order; its length counts them. -/
abbrev Text := List CodePoint

namespace CodePoint

/-- The code point of a character. -/
def ofChar (c : Char) : CodePoint :=
  ⟨c.toNat, by
    have h := c.valid
    simp only [Char.toNat, UInt32.isValidChar, Nat.isValidChar] at *
    omega⟩

/-- The code point of a number, which is taken modulo the number of code points. -/
def ofNat (n : Nat) : CodePoint :=
  ⟨n % 0x110000, Nat.mod_lt n (by decide)⟩

/-- The first half of a surrogate pair. -/
def isHighSurrogate (c : CodePoint) : Bool :=
  0xD800 ≤ c.val && c.val ≤ 0xDBFF

/-- The second half of a surrogate pair. -/
def isLowSurrogate (c : CodePoint) : Bool :=
  0xDC00 ≤ c.val && c.val ≤ 0xDFFF

/-- The character of a code point, if it is no surrogate. -/
def toChar? (c : CodePoint) : Option Char :=
  if h : c.val.isValidChar then some (Char.ofNatAux c.val h) else none

/-- The code point beyond 0xFFFF that a high and a low surrogate stand for together. -/
def joined (high low : CodePoint) : CodePoint :=
  ofNat (0x10000 + (high.val - 0xD800) * 0x400 + (low.val - 0xDC00))

end CodePoint

namespace Text

/-- The text of an ordinary string. -/
def ofString (s : String) : Text :=
  s.toList.map CodePoint.ofChar

instance : Coe String Text := ⟨ofString⟩

/-- The string of a text without surrogates. -/
def toString? (t : Text) : Option String :=
  (t.mapM CodePoint.toChar?).map String.ofList

/-- The characters of a text, with `standIn` for each surrogate. -/
def charsOr (standIn : CodePoint → List Char) (t : Text) : List Char :=
  t.flatMap fun c =>
    match c.toChar? with
    | some ch => [ch]
    | none => standIn c

/-- Every high surrogate that a low one follows becomes one code point with it. -/
def joinPairs : Text → Text
  | [] => []
  | [c] => [c]
  | c :: d :: rest =>
    if c.isHighSurrogate && d.isLowSurrogate then
      CodePoint.joined c d :: joinPairs rest
    else
      c :: joinPairs (d :: rest)

/-- The concatenation of `parts` with `separator` between neighbours. -/
def joinWith (separator : Text) (parts : List Text) : Text :=
  (parts.intersperse separator).flatten

end Text

end BoxProbe
