/-
Module: BoxProbe.Protocol.Lenient
Purpose: Reading typed fields from decoded objects, with the usual coercions.
Main exports: Lenient.int?, Lenient.double?, Lenient.bool?, Lenient.text?, Lenient.list?,
  Lenient.field?
-/
import BoxProbe.Json.Basic
import BoxProbe.Number.Numeral

/-!
A field has two names, the one on the wire and a plain one.  If the object has the wire name, a
field under the plain name is not looked at; keys that name no field are ignored.  A value of
another JSON type is taken where it says the same: a boolean or a numeral for a number, 0, 1 or a
yes-or-no word for a boolean.
-/

namespace BoxProbe.Lenient

/-- The ASCII characters of a text, if it has no other code points. -/
def ascii? (t : Text) : Option (List Char) :=
  if t.all fun c => c.val < 0x80 then some (t.map fun c => Char.ofNat c.val) else none

/-- A numeral without a fraction of zeros. -/
def dropZeroFraction (cs : List Char) : List Char :=
  match cs.dropWhile (· ≠ '.') with
  | _ :: zeros => if zeros ≠ [] ∧ zeros.all (· == '0') then cs.takeWhile (· ≠ '.') else cs
  | [] => cs

/-- What follows the zeros and underscores at the front of a numeral that starts with a zero, whose
`last` character was such a one.  Before a point the last of them stays, and so it does where
nothing follows. -/
def afterZeros? (last : Char) : List Char → Option (List Char)
  | [] => some [last]
  | c :: rest =>
    if c = '0' ∨ c = '_' then afterZeros? c rest
    else if c.isDigit ∨ c = '-' then some (c :: rest)
    else if c = '.' then some (last :: c :: rest)
    else none

/-- A numeral without zeros in front.  It starts with a digit, or with a minus sign behind zeros. -/
def dropZeros? : List Char → Option (List Char)
  | [] => none
  | c :: rest =>
    if c = '0' then afterZeros? c rest
    else if c.isDigit ∨ c = '-' then some (c :: rest)
    else none

/-- A text without its underscores, if no two of them are neighbours and none is at an end. -/
def dropSingleUnderscores? (cs : List Char) : Option (List Char) :=
  let hasPair := (cs.zip (cs.drop 1)).any fun p => p.1 == '_' && p.2 == '_'
  if cs.head? = some '_' ∨ cs.getLast? = some '_' ∨ hasPair then none
  else some (cs.filter (· ≠ '_'))

/-- The integer of a plain numeral: a minus sign or none, and digits, the first of which is no zero
unless it is the only one.  The sign counts towards the limit on digits. -/
def plainInt? (cs : List Char) : Option Int :=
  let negative := cs.head? = some '-'
  let digits := if negative then cs.drop 1 else cs
  if digits ≠ [] ∧ digits.all Char.isDigit ∧ (digits.head? ≠ some '0' ∨ digits.length = 1) ∧
      cs.length ≤ maxIntDigits then
    some (Numeral.signed negative digits)
  else none

/-- The plain form of a numeral for an integer: a plus sign goes, then the zeros in front of the
digits, then a fraction of zeros, then single underscores. -/
def plainNumeral? (cs : List Char) : Option (List Char) :=
  let stripped :=
    match cs with
    | '+' :: '-' :: _ => none
    | '+' :: rest => dropZeros? rest
    | '-' :: rest => (dropZeros? rest).map ('-' :: ·)
    | _ => dropZeros? cs
  (stripped.map dropZeroFraction).bind dropSingleUnderscores?

/-- The integer of a text, which may have blanks around it. -/
def intOfText? (t : Text) : Option Int :=
  ((ascii? t.trim).bind plainNumeral?).bind plainInt?

/-- The double of a text: either blanks around a numeral without underscores, or a numeral without
blanks in which single underscores may stand anywhere but at the ends. -/
def doubleOfText? (t : Text) : Option Double :=
  match (ascii? t.trim).bind Numeral.unseparated? with
  | some d => some d
  | none => ((ascii? t).bind dropSingleUnderscores?).bind Numeral.unseparated?

/-- Words for false and for true, in any case. -/
def boolOfText? (t : Text) : Option Bool :=
  let word := t.lower
  if (["0", "off", "f", "false", "n", "no"].map Text.ofString).contains word then some false
  else if (["1", "on", "t", "true", "y", "yes"].map Text.ofString).contains word then some true
  else none

/-- Zero is false and one is true. -/
def boolOfInt? (n : Int) : Option Bool :=
  if n = 0 then some false else if n = 1 then some true else none

/-- An integer.  A double counts if it has no fraction and lies strictly between -2^63 and 2^63. -/
def int? : Json → Option Int
  | .int n => some n
  | .bool b => some (if b then 1 else 0)
  | .double d => d.toInt?.bind fun n =>
    if -9223372036854775808 < n ∧ n < 9223372036854775808 then some n else none
  | .str t => intOfText? t
  | _ => none

/-- A double.  An integer counts if it does not round to an infinity. -/
def double? : Json → Option Double
  | .double d => some d
  | .int n =>
    let d := Double.ofInt n
    if d.isFinite then some d else none
  | .bool b => some (Double.ofInt (if b then 1 else 0))
  | .str t => doubleOfText? t
  | _ => none

/-- A boolean. -/
def bool? : Json → Option Bool
  | .bool b => some b
  | .int n => boolOfInt? n
  | .double d => d.toInt?.bind boolOfInt?
  | .str t => boolOfText? t
  | _ => none

/-- A text; nothing else counts. -/
def text? : Json → Option Text
  | .str t => some t
  | _ => none

/-- A list, item by item. -/
def list? {α : Type} (item? : Json → Option α) : Json → Option (List α)
  | .arr items => items.mapM item?
  | _ => none

/-- The two names of a field. -/
structure FieldName where
  wire : String
  plain : String
deriving Repr, DecidableEq

/-- The value under the wire name, or else under the plain name. -/
def present? (name : FieldName) (fields : Json.Fields) : Option Json :=
  match fields.get? name.wire with
  | some v => some v
  | none => fields.get? name.plain

/-- Reads a field that may be absent. -/
def field? {α : Type} (name : FieldName) (absent : α) (read? : Json → Option α)
    (fields : Json.Fields) : Option α :=
  match present? name fields with
  | some v => read? v
  | none => some absent

/-- Reads a field that must be there. -/
def required? {α : Type} (name : FieldName) (read? : Json → Option α) (fields : Json.Fields) :
    Option α :=
  (present? name fields).bind read?

end BoxProbe.Lenient
