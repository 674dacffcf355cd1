/-
Module: BoxProbe.Text.Class
Purpose: Blanks, decimal digits and letter case of code points.
Main exports: CodePoint.isBlank, CodePoint.isSpace, CodePoint.digit?, CodePoint.plain, Text.trim,
  Text.upper, Text.lower
-/
import BoxProbe.Text.Basic

/-!
Numbers in settings and in frames may be surrounded by any Unicode white space, and numbers in
settings may be written in the decimal digits of any script.  `plain` maps such a text to the ASCII
alphabet that numerals are read in.
-/

namespace BoxProbe

namespace CodePoint

/-- Unicode white space (the property `White_Space`). -/
def isBlank (c : CodePoint) : Bool :=
  let n := c.val
  (0x9 ≤ n && n ≤ 0xD) || n == 0x20 || n == 0x85 || n == 0xA0 || n == 0x1680 ||
    (0x2000 ≤ n && n ≤ 0x200A) || n == 0x2028 || n == 0x2029 || n == 0x202F || n == 0x205F ||
    n == 0x3000

/-- White space as a text's words are parted: blanks and the four information separators. -/
def isSpace (c : CodePoint) : Bool :=
  c.isBlank || (0x1C ≤ c.val && c.val ≤ 0x1F)

/-- The zeros of the decimal digits outside ASCII (general category `Nd` of Unicode 14); the other
nine digits of a script follow its zero. -/
def zeros : List Nat :=
  [
    0x660, 0x6f0, 0x7c0, 0x966, 0x9e6, 0xa66, 0xae6, 0xb66, 0xbe6, 0xc66, 0xce6, 0xd66, 0xde6,
    0xe50, 0xed0, 0xf20, 0x1040, 0x1090, 0x17e0, 0x1810, 0x1946, 0x19d0, 0x1a80, 0x1a90, 0x1b50,
    0x1bb0, 0x1c40, 0x1c50, 0xa620, 0xa8d0, 0xa900, 0xa9d0, 0xa9f0, 0xaa50, 0xabf0, 0xff10,
    0x104a0, 0x10d30, 0x11066, 0x110f0, 0x11136, 0x111d0, 0x112f0, 0x11450, 0x114d0, 0x11650,
    0x116c0, 0x11730, 0x118e0, 0x11950, 0x11c50, 0x11d50, 0x11da0, 0x16a60, 0x16ac0, 0x16b50,
    0x1d7ce, 0x1d7d8, 0x1d7e2, 0x1d7ec, 0x1d7f6, 0x1e140, 0x1e2f0, 0x1e950, 0x1fbf0
  ]

/-- The value of a decimal digit of any script. -/
def digit? (c : CodePoint) : Option Nat :=
  if 0x30 ≤ c.val && c.val ≤ 0x39 then some (c.val - 0x30)
  else (zeros.find? fun z => z ≤ c.val && c.val ≤ z + 9).map (c.val - ·)

/-- The ASCII character that stands for a code point where a numeral is read: ASCII stays, other
blanks become a space, other digits their ASCII form, and anything else a question mark, which no
numeral contains. -/
def plain (c : CodePoint) : Char :=
  if c.val < 0x7F then Char.ofNat c.val
  else if c.isBlank then ' '
  else
    match c.digit? with
    | some d => Char.ofNat (0x30 + d)
    | none => '?'

/-- The ASCII letters that a code point becomes in upper case; outside ASCII only the letters whose
upper case lies wholly in ASCII are mapped, and all others stay. -/
def upper (c : CodePoint) : Text :=
  let n := c.val
  if 0x61 ≤ n && n ≤ 0x7A then [CodePoint.ofNat (n - 0x20)]
  else if n == 0xDF then Text.ofString "SS"
  else if n == 0x131 then Text.ofString "I"
  else if n == 0x17F then Text.ofString "S"
  else if n == 0xFB00 then Text.ofString "FF"
  else if n == 0xFB01 then Text.ofString "FI"
  else if n == 0xFB02 then Text.ofString "FL"
  else if n == 0xFB03 then Text.ofString "FFI"
  else if n == 0xFB04 then Text.ofString "FFL"
  else if n == 0xFB05 || n == 0xFB06 then Text.ofString "ST"
  else [c]

end CodePoint

namespace Text

/-- The text without the blanks at its two ends. -/
def trim (t : Text) : Text :=
  ((t.dropWhile CodePoint.isBlank).reverse.dropWhile CodePoint.isBlank).reverse

/-- Upper case, as far as it can matter to a comparison with ASCII names. -/
def upper (t : Text) : Text :=
  t.flatMap CodePoint.upper

/-- ASCII letters in lower case; everything else stays. -/
def lower (t : Text) : Text :=
  t.map fun c => if 0x41 ≤ c.val && c.val ≤ 0x5A then CodePoint.ofNat (c.val + 0x20) else c

end Text

end BoxProbe
