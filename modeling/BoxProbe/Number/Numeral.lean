/-
Module: BoxProbe.Number.Numeral
Purpose: Reading integers and doubles from free text.
Main exports: Numeral.natOf, Numeral.frontDigits?, Numeral.double?, Text.readInt,
  Text.readDouble?
-/
import BoxProbe.Number.Double
import BoxProbe.Text.Class

/-!
Numerals in free text may have blanks around them, a sign, and single underscores between digits.
`Numeral.frontDigits?` and `Numeral.double?` read the ASCII form; `Text.readInt` and
`Text.readDouble?` also take the blanks and digits of other scripts.
-/

namespace BoxProbe

/-- The largest number of digits an integer may be written with. -/
def maxIntDigits : Nat := 4300

namespace Numeral

/-- Whether an integer is short enough to be written; its sign does not count. -/
def isWritable (n : Int) : Bool :=
  Double.digitCount n.natAbs ≤ maxIntDigits

/-- The words for an integer that is too long to be written. -/
def unwritableMessage : String :=
  s!"Exceeds the limit ({maxIntDigits} digits) for integer string conversion; " ++
    "use sys.set_int_max_str_digits() to increase the limit"

/-- The number that a list of ASCII digits denotes. -/
def natOf (digits : List Char) : Nat :=
  digits.foldl (fun n c => 10 * n + (c.toNat - '0'.toNat)) 0

/-- The words for an integer of too many digits. -/
def tooManyDigits (digits : Nat) : String :=
  s!"Exceeds the limit ({maxIntDigits} digits) for integer string conversion: value has " ++
    s!"{digits} digits; use sys.set_int_max_str_digits() to increase the limit"

/-- Splits off a sign: whether it is a minus, and the rest. -/
def splitSign : List Char → Bool × List Char
  | '-' :: rest => (true, rest)
  | '+' :: rest => (false, rest)
  | cs => (false, cs)

/-- The characters without their underscores, if each of these stands between two digits. -/
def dropUnderscores? : (afterDigit : Bool) → List Char → Option (List Char)
  | _, [] => some []
  | false, '_' :: _ => none
  | true, '_' :: rest =>
    match rest with
    | [] => none
    | c :: _ => if c.isDigit then dropUnderscores? false rest else none
  | _, c :: rest => (dropUnderscores? c.isDigit rest).map (c :: ·)

/-- A blank around a numeral of the ASCII alphabet. -/
def isBlank (c : Char) : Bool :=
  c == ' ' || ('\t' ≤ c && c ≤ '\r')

/-- The characters without the blanks at both ends. -/
def trim (cs : List Char) : List Char :=
  ((cs.dropWhile isBlank).reverse.dropWhile isBlank).reverse

/-- The digits at the front of a text, which may have single underscores between them, and what
follows them. -/
def frontDigits? (cs : List Char) : Option (List Char × List Char) :=
  let isPart (c : Char) : Bool := c.isDigit || c == '_'
  (dropUnderscores? false (cs.takeWhile isPart)).map fun digits => (digits, cs.dropWhile isPart)

/-- The integer of a sign and digits. -/
def signed (negative : Bool) (digits : List Char) : Int :=
  if negative then -(natOf digits : Int) else natOf digits

/-- The exponent part of a decimal numeral: nothing, or `e`, a sign and digits. -/
def exponent? : List Char → Option Int
  | [] => some 0
  | c :: rest =>
    if c = 'e' ∨ c = 'E' then
      let (negative, digits) := splitSign rest
      if digits ≠ [] ∧ digits.all Char.isDigit then some (signed negative digits) else none
    else none

/-- A decimal numeral without a sign: digits with a point before, among or after them, and an
optional exponent. -/
def decimal? (negative : Bool) (cs : List Char) : Option Double :=
  let whole := cs.takeWhile Char.isDigit
  let rest := cs.dropWhile Char.isDigit
  let (fraction, rest) :=
    match rest with
    | '.' :: more => (more.takeWhile Char.isDigit, more.dropWhile Char.isDigit)
    | _ => ([], rest)
  if whole.isEmpty && fraction.isEmpty then none
  else
    (exponent? rest).map fun e =>
      Double.ofDecimal negative (natOf (whole ++ fraction)) (e - fraction.length)

/-- A numeral for a double without underscores: a decimal, `inf`, `infinity` or `nan` in any case,
with a sign. -/
def unseparated? (cs : List Char) : Option Double :=
  let (negative, body) := splitSign cs
  let word := String.ofList (body.map Char.toLower)
  if word = "inf" ∨ word = "infinity" then some (.infinite negative)
  else if word = "nan" then some .nan
  else decimal? negative body

/-- A numeral for a double, perhaps with single underscores between digits. -/
def double? (cs : List Char) : Option Double :=
  (dropUnderscores? false cs).bind unseparated?

end Numeral

/-- Why a text does not read as an integer. -/
inductive IntFault where
  /-- It is no integer numeral. -/
  | malformed
  /-- It has this number of digits, which are too many. -/
  | tooLong (digits : Nat)
deriving DecidableEq, Repr

namespace Text

/-- The integer that a text denotes, with blanks around it and digits of any script.  Too many
digits are noticed before anything that may follow them. -/
def readInt (t : Text) : Except IntFault Int :=
  let (negative, body) := Numeral.splitSign (Numeral.trim (t.map CodePoint.plain))
  match Numeral.frontDigits? body with
  | none => .error .malformed
  | some (digits, rest) =>
    if maxIntDigits < digits.length then .error (.tooLong digits.length)
    else if digits = [] ∨ rest ≠ [] then .error .malformed
    else .ok (Numeral.signed negative digits)

/-- The double that a text denotes, with blanks around it and digits of any script. -/
def readDouble? (t : Text) : Option Double :=
  Numeral.double? (Numeral.trim (t.map CodePoint.plain))

end Text

end BoxProbe
