/-
Module: BoxProbe.Json.Printer
Purpose: JSON text in ASCII, with a space after every comma and colon.
Main exports: Json.chars, Json.render
-/
import BoxProbe.Json.Basic
import BoxProbe.Number.Shortest
import BoxProbe.Text.Quoted

namespace BoxProbe.Json

/-- A code point as `\u` and four hexadecimal digits, or as two such escapes beyond 0xFFFF. -/
def escaped (c : CodePoint) : List Char :=
  if c.val < 0x10000 then ['\\', 'u'] ++ hexDigits 4 c.val
  else
    let n := c.val - 0x10000
    ['\\', 'u'] ++ hexDigits 4 (0xD800 + n / 0x400) ++
      (['\\', 'u'] ++ hexDigits 4 (0xDC00 + n % 0x400))

/-- One code point of a string.  Only printable ASCII stands for itself. -/
def stringPoint (c : CodePoint) : List Char :=
  let n := c.val
  if n = 0x22 then ['\\', '"']
  else if n = 0x5C then ['\\', '\\']
  else if n = 0x0A then ['\\', 'n']
  else if n = 0x0D then ['\\', 'r']
  else if n = 0x09 then ['\\', 't']
  else if n = 0x0C then ['\\', 'f']
  else if n = 0x08 then ['\\', 'b']
  else if 0x20 ≤ n ∧ n ≤ 0x7E then [Char.ofNat n]
  else escaped c

/-- A string in double quotes. -/
def stringChars (t : Text) : List Char :=
  ['"'] ++ t.flatMap stringPoint ++ ['"']

/-- The decimal digits of an integer, with a minus if it is negative. -/
def intChars (n : Int) : List Char :=
  (if n < 0 then ['-'] else []) ++ Nat.toDigits 10 n.natAbs

mutual

/-- The text of a value. -/
def chars : Json → List Char
  | .null => ['n', 'u', 'l', 'l']
  | .bool true => ['t', 'r', 'u', 'e']
  | .bool false => ['f', 'a', 'l', 's', 'e']
  | .int n => intChars n
  | .double d => d.chars Double.jsonStyle
  | .str t => stringChars t
  | .arr items => ['['] ++ itemChars items ++ [']']
  | .obj fields => ['{'] ++ fieldChars fields ++ ['}']

/-- The text of the items of an array. -/
def itemChars : List Json → List Char
  | [] => []
  | [v] => chars v
  | v :: rest => chars v ++ [',', ' '] ++ itemChars rest

/-- The text of the fields of an object. -/
def fieldChars : List (Text × Json) → List Char
  | [] => []
  | [(k, v)] => stringChars k ++ [':', ' '] ++ chars v
  | (k, v) :: rest => stringChars k ++ [':', ' '] ++ chars v ++ [',', ' '] ++ fieldChars rest

end

/-- The text of a value, as a string. -/
def render (v : Json) : String :=
  String.ofList v.chars

end BoxProbe.Json
