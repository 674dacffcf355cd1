/-
Module: BoxProbe.Json.Reader
Purpose: Reading JSON text, with an exact account of why a text is refused.
Main exports: Json.Problem, Json.Fault, Json.read, Json.Fault.message
-/
import BoxProbe.Json.Basic
import BoxProbe.Json.Display
import BoxProbe.Number.Numeral

/-!
The reader takes standard JSON and the words `NaN`, `Infinity` and `-Infinity`.  A refusal is a
value: what was wrong, and the rest of the text from the place where it was wrong, from which
`Fault.message` computes line, column and index.  Containers may be nested to a fixed depth, and
integers may have a limited number of digits.
-/

namespace BoxProbe.Json

/-- What can be wrong at a place of a JSON text. -/
inductive Problem where
  | noValue
  | trailingText
  | noName
  | noColon
  | noComma
  | unterminatedString
  | controlCharacter
  | badEscape
  | badUnicodeEscape
  | byteOrderMark
deriving DecidableEq, Repr

/-- The two kinds of containers. -/
inductive Container where
  | array
  | object
deriving DecidableEq, Repr

/-- Why a text is refused. -/
inductive Fault where
  /-- Something is wrong at the place where `rest` begins. -/
  | malformed (problem : Problem) (rest : List Char)
  /-- An integer has this number of digits, which are too many. -/
  | integerTooLong (digits : Nat)
  /-- A container lies too deep. -/
  | tooDeep (container : Container)
deriving DecidableEq, Repr

/-- How deep containers may be nested. -/
def maxDepth : Nat := 990

/-- Space, tab, line feed and carriage return separate tokens. -/
def isSeparator (c : Char) : Bool :=
  c == ' ' || c == '\t' || c == '\n' || c == '\r'

/-- The text from its first character on that is no separator. -/
def skip (text : List Char) : List Char :=
  text.dropWhile isSeparator

/-- The code point of four hexadecimal digits. -/
def hexPoint? (a b c d : Char) : Option CodePoint :=
  match hexValue? a, hexValue? b, hexValue? c, hexValue? d with
  | some a, some b, some c, some d => some (CodePoint.ofNat (((a * 16 + b) * 16 + c) * 16 + d))
  | _, _, _, _ => none

/-- The character that a one-letter escape stands for. -/
def escapeOf? : Char → Option Char
  | '"' => some '"'
  | '\\' => some '\\'
  | '/' => some '/'
  | 'b' => some '\x08'
  | 'f' => some '\x0c'
  | 'n' => some '\n'
  | 'r' => some '\r'
  | 't' => some '\t'
  | _ => none

/-- The code points of a string up to its closing quote, surrogates not yet joined.  `opening` is
the text from the opening quote on; a `\u` escape at the very end of the text is refused even if it
is complete. -/
def stringBody (opening : List Char) : List Char → Except Fault (Text × List Char)
  | [] => .error (.malformed .unterminatedString opening)
  | '"' :: rest => .ok ([], rest)
  | '\\' :: [] => .error (.malformed .unterminatedString opening)
  | '\\' :: 'u' :: digits =>
    match digits with
    | a :: b :: c :: d :: rest =>
      if rest.isEmpty then .error (.malformed .badUnicodeEscape ('u' :: digits))
      else
        match hexPoint? a b c d with
        | some point => (stringBody opening rest).map fun r => (point :: r.1, r.2)
        | none => .error (.malformed .badUnicodeEscape ('u' :: digits))
    | _ => .error (.malformed .badUnicodeEscape ('u' :: digits))
  | '\\' :: c :: rest =>
    match escapeOf? c with
    | some e => (stringBody opening rest).map fun r => (CodePoint.ofChar e :: r.1, r.2)
    | none => .error (.malformed .badEscape ('\\' :: c :: rest))
  | c :: rest =>
    if c.toNat < 0x20 then .error (.malformed .controlCharacter (c :: rest))
    else (stringBody opening rest).map fun r => (CodePoint.ofChar c :: r.1, r.2)

/-- A string whose opening quote has been read. -/
def string (opening rest : List Char) : Except Fault (Text × List Char) :=
  (stringBody opening rest).map fun r => (r.1.joinPairs, r.2)

/-- A number as written. -/
structure NumberToken where
  negative : Bool
  whole : List Char
  fraction : List Char
  exponent : Option Int
deriving Repr

/-- The whole part of a number: a single zero, or digits that start with another one. -/
def wholePart? : List Char → Option (List Char × List Char)
  | [] => none
  | c :: rest =>
    if c = '0' then some (['0'], rest)
    else if c.isDigit then some (c :: rest.takeWhile Char.isDigit, rest.dropWhile Char.isDigit)
    else none

/-- The fraction of a number, if a point and a digit follow. -/
def fractionPart : List Char → List Char × List Char
  | '.' :: rest =>
    let digits := rest.takeWhile Char.isDigit
    if digits.isEmpty then ([], '.' :: rest) else (digits, rest.dropWhile Char.isDigit)
  | rest => ([], rest)

/-- The exponent of a number, if one follows. -/
def exponentPart : List Char → Option Int × List Char
  | [] => (none, [])
  | c :: rest =>
    if c = 'e' ∨ c = 'E' then
      let (negative, body) := Numeral.splitSign rest
      let digits := body.takeWhile Char.isDigit
      if digits.isEmpty then (none, c :: rest)
      else (some (Numeral.signed negative digits), body.dropWhile Char.isDigit)
    else (none, c :: rest)

/-- The number at the beginning of a text. -/
def number? (text : List Char) : Option (NumberToken × List Char) :=
  let (negative, body) :=
    match text with
    | '-' :: rest => (true, rest)
    | _ => (false, text)
  (wholePart? body).map fun (whole, rest) =>
    let (fraction, rest) := fractionPart rest
    let (exponent, rest) := exponentPart rest
    (⟨negative, whole, fraction, exponent⟩, rest)

/-- The value of a number: an integer if it has neither a fraction nor an exponent. -/
def NumberToken.value (t : NumberToken) : Except Fault Json :=
  if t.fraction.isEmpty && t.exponent.isNone then
    if maxIntDigits < t.whole.length then .error (.integerTooLong t.whole.length)
    else .ok (.int (Numeral.signed t.negative t.whole))
  else
    .ok (.double (Double.ofDecimal t.negative (Numeral.natOf (t.whole ++ t.fraction))
      (t.exponent.getD 0 - t.fraction.length)))

/-- A value that is no container. -/
def scalar (text : List Char) : Except Fault (Json × List Char) :=
  match text with
  | '"' :: rest => (string text rest).map fun r => (.str r.1, r.2)
  | 'n' :: 'u' :: 'l' :: 'l' :: rest => .ok (.null, rest)
  | 't' :: 'r' :: 'u' :: 'e' :: rest => .ok (.bool true, rest)
  | 'f' :: 'a' :: 'l' :: 's' :: 'e' :: rest => .ok (.bool false, rest)
  | 'N' :: 'a' :: 'N' :: rest => .ok (.double .nan, rest)
  | 'I' :: 'n' :: 'f' :: 'i' :: 'n' :: 'i' :: 't' :: 'y' :: rest =>
    .ok (.double (.infinite false), rest)
  | '-' :: 'I' :: 'n' :: 'f' :: 'i' :: 'n' :: 'i' :: 't' :: 'y' :: rest =>
    .ok (.double (.infinite true), rest)
  | _ =>
    match number? text with
    | some (token, rest) => token.value.map fun v => (v, rest)
    | none => .error (.malformed .noValue text)

/-- The items of an array up to its closing bracket, at least one.  The fuel is the length of the
text, and every item takes at least one character of it. -/
def items (readItem : List Char → Except Fault (Json × List Char)) :
    (fuel : Nat) → List Char → Except Fault (List Json × List Char)
  | 0, text => .error (.malformed .noValue text)
  | fuel + 1, text =>
    match readItem text with
    | .error e => .error e
    | .ok (v, rest) =>
      match skip rest with
      | ',' :: rest => (items readItem fuel (skip rest)).map fun r => (v :: r.1, r.2)
      | ']' :: rest => .ok ([v], rest)
      | rest => .error (.malformed .noComma rest)

/-- The fields of an object up to its closing brace, at least one. -/
def fields (readItem : List Char → Except Fault (Json × List Char)) :
    (fuel : Nat) → List Char → Except Fault (Fields × List Char)
  | 0, text => .error (.malformed .noName text)
  | fuel + 1, text =>
    match text with
    | '"' :: rest =>
      match string text rest with
      | .error e => .error e
      | .ok (key, rest) =>
        match skip rest with
        | ':' :: rest =>
          match readItem (skip rest) with
          | .error e => .error e
          | .ok (v, rest) =>
            match skip rest with
            | ',' :: rest => (fields readItem fuel (skip rest)).map fun r => ((key, v) :: r.1, r.2)
            | '}' :: rest => .ok ([(key, v)], rest)
            | rest => .error (.malformed .noComma rest)
        | rest => .error (.malformed .noColon rest)
    | text => .error (.malformed .noName text)

/-- A value inside at most `depth` further containers, and the text after it. -/
def value : (depth : Nat) → List Char → Except Fault (Json × List Char)
  | 0, '[' :: _ => .error (.tooDeep .array)
  | 0, '{' :: _ => .error (.tooDeep .object)
  | depth + 1, '[' :: rest =>
    match skip rest with
    | ']' :: rest => .ok (.arr [], rest)
    | rest => (items (value depth) rest.length rest).map fun r => (.arr r.1, r.2)
  | depth + 1, '{' :: rest =>
    match skip rest with
    | '}' :: rest => .ok (.obj [], rest)
    | rest => (fields (value depth) rest.length rest).map fun r => (.obj r.1.collapse, r.2)
  | _, text => scalar text

/-- Reads a text that holds one value and nothing else but separators around it. -/
def read (text : List Char) : Except Fault Json :=
  match text with
  | '\uFEFF' :: _ => .error (.malformed .byteOrderMark text)
  | _ =>
    match value maxDepth (skip text) with
    | .error e => .error e
    | .ok (v, rest) =>
      match skip rest with
      | [] => .ok v
      | rest => .error (.malformed .trailingText rest)

namespace Problem

/-- The words for a problem. -/
def message : Problem → String
  | .noValue => "Expecting value"
  | .trailingText => "Extra data"
  | .noName => "Expecting property name enclosed in double quotes"
  | .noColon => "Expecting ':' delimiter"
  | .noComma => "Expecting ',' delimiter"
  | .unterminatedString => "Unterminated string starting at"
  | .controlCharacter => "Invalid control character at"
  | .badEscape => "Invalid \\escape"
  | .badUnicodeEscape => "Invalid \\uXXXX escape"
  | .byteOrderMark => "Unexpected UTF-8 BOM (decode using utf-8-sig)"

end Problem

/-- A place in a text: line and column count from one, the index from zero. -/
structure Place where
  line : Nat
  column : Nat
  index : Nat
deriving DecidableEq, Repr

/-- The place that a number of characters of a text precede. -/
def Place.after (text : List Char) (index : Nat) : Place :=
  let before := text.take index
  let lastLine := before.reverse.takeWhile (· ≠ '\n')
  ⟨before.count '\n' + 1, lastLine.length + 1, index⟩

/-- The words for a container that lies too deep. -/
def Container.tooDeepMessage : Container → String
  | .array => "maximum recursion depth exceeded while decoding a JSON array from a unicode string"
  | .object => "maximum recursion depth exceeded while decoding a JSON object from a unicode string"

/-- The words for a fault in a text. -/
def Fault.message (text : List Char) : Fault → String
  | .malformed problem rest =>
    let place := Place.after text (text.length - rest.length)
    s!"{problem.message}: line {place.line} column {place.column} (char {place.index})"
  | .integerTooLong digits => Numeral.tooManyDigits digits
  | .tooDeep container => container.tooDeepMessage

end BoxProbe.Json
