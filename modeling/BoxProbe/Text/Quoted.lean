/-
Module: BoxProbe.Text.Quoted
Purpose: The quoted form of a text in messages.
Main exports: Text.quoted, Text.quotedAscii, Text.quotedBytes
-/
import BoxProbe.Text.Hexadecimal
import BoxProbe.Text.Printable

/-!
Messages show a text between single quotes, or between double quotes if it has a single quote and
no double one.  The quote and the backslash are escaped by a backslash, line feed, carriage return
and tab have their letters, and other unprintable code points are written by number, with two,
four or eight hexadecimal digits.
-/

namespace BoxProbe.Text

/-- The quote that encloses a text. -/
def quoteOf (t : Text) : Char :=
  if t.contains (CodePoint.ofChar '\'') && !t.contains (CodePoint.ofChar '"') then '"' else '\''

/-- A code point by its number. -/
def numbered (c : CodePoint) : Text :=
  let n := c.val
  if n < 0x100 then ofString "\\x" ++ (hexDigits 2 n).map CodePoint.ofChar
  else if n < 0x10000 then ofString "\\u" ++ (hexDigits 4 n).map CodePoint.ofChar
  else ofString "\\U" ++ (hexDigits 8 n).map CodePoint.ofChar

/-- One code point inside quotes. -/
def quotedPoint (quote : Char) (c : CodePoint) : Text :=
  let n := c.val
  if n == quote.toNat || n == 0x5C then [CodePoint.ofChar '\\', c]
  else if n == 0x0A then ofString "\\n"
  else if n == 0x0D then ofString "\\r"
  else if n == 0x09 then ofString "\\t"
  else if c.isPrintable then [c]
  else numbered c

/-- The text in quotes. -/
def quoted (t : Text) : Text :=
  let quote := quoteOf t
  [CodePoint.ofChar quote] ++ t.flatMap (quotedPoint quote) ++ [CodePoint.ofChar quote]

/-- The text in quotes, in ASCII alone. -/
def quotedAscii (t : Text) : Text :=
  t.quoted.flatMap fun c => if c.val < 0x80 then [c] else numbered c

/-- A byte inside quotes; only ASCII is shown as it is. -/
def quotedByte (quote : Char) (b : UInt8) : Text :=
  let c := CodePoint.ofNat b.toNat
  if c.val < 0x80 then quotedPoint quote c else numbered c

/-- Bytes in quotes, marked as bytes. -/
def quotedBytes (bytes : List UInt8) : Text :=
  let quote := quoteOf (bytes.map fun b => CodePoint.ofNat b.toNat)
  ofString "b" ++ [CodePoint.ofChar quote] ++ bytes.flatMap (quotedByte quote) ++
    [CodePoint.ofChar quote]

end BoxProbe.Text
