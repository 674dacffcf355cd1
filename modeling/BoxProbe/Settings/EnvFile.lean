/-
Module: BoxProbe.Settings.EnvFile
Purpose: Reading files that define environment variables.
Main exports: EnvFile.Statement, EnvFile.statements, EnvFile.bindings, EnvFile.malformedLines
-/
import BoxProbe.Text.Class

/-!
A file of variables holds a statement a line: `NAME=value`, perhaps with `export` in front and a
comment behind.  A value in quotes may hold line ends and escapes; one without quotes ends with its
line or before a blank and `#`.  A statement that is none of this is malformed, and reading goes on
behind the line on which it went wrong.
-/

namespace BoxProbe

namespace EnvFile

/-- White space of any kind. -/
def isSpace (c : Char) : Bool :=
  (CodePoint.ofChar c).isSpace

/-- White space within a line. -/
def isGap (c : Char) : Bool :=
  isSpace c && c ≠ '\n'

/-- Line ends of all three kinds become line feeds. -/
def normalize : List Char → List Char
  | [] => []
  | '\r' :: '\n' :: rest => '\n' :: normalize rest
  | '\r' :: rest => '\n' :: normalize rest
  | c :: rest => c :: normalize rest

/-- What a statement says. -/
inductive Statement where
  /-- Nothing: a comment, or the end of the file. -/
  | nothing
  /-- A variable, and its value if there is one. -/
  | binding (name : String) (value : Option String)
  /-- Something that cannot be understood; it starts on this line. -/
  | malformed (line : Nat)
deriving DecidableEq, Repr

/-- Reading a part of a statement: what it says and what follows, or what is left where reading went
wrong. -/
abbrev Reading (α : Type) := Except (List Char) (α × List Char)

/-- Drops the word `export` if white space follows it. -/
def skipExport (cs : List Char) : List Char :=
  let word := "export".toList
  if word.isPrefixOf cs && ((cs.drop word.length).head?.map isGap).getD false then
    (cs.drop word.length).dropWhile isGap
  else cs

/-- A character of a name without quotes. -/
def isNameChar (c : Char) : Bool :=
  c ≠ '=' && c ≠ '#' && !isSpace c

/-- Reads the name of a variable; a comment has none. -/
def readName (cs : List Char) : Reading (Option String) :=
  match cs with
  | '#' :: _ => .ok (none, cs)
  | '\'' :: body =>
    match body.takeWhile (· ≠ '\''), body.dropWhile (· ≠ '\'') with
    | c :: name, _ :: rest => .ok (some (String.ofList (c :: name)), rest)
    | _, _ => .error cs
  | _ =>
    match cs.takeWhile isNameChar with
    | [] => .error cs
    | name => .ok (some (String.ofList name), cs.dropWhile isNameChar)

/-- Splits the text behind an opening quote at its closing quote.  A backslash and the character
behind it belong together; at the end of a line it has none. -/
def splitQuoted? (quote : Char) : List Char → Option (List Char × List Char)
  | [] => none
  | '\\' :: '\n' :: _ => none
  | '\\' :: c :: rest => (splitQuoted? quote rest).map fun r => ('\\' :: c :: r.1, r.2)
  | c :: rest =>
    if c = quote then some ([], rest)
    else if c = '\\' then none
    else (splitQuoted? quote rest).map fun r => (c :: r.1, r.2)

/-- The character that a backslash and a character stand for in double quotes. -/
def doubleQuotedEscape? : Char → Option Char
  | '\\' => some '\\'
  | '\'' => some '\''
  | '"' => some '"'
  | 'a' => some '\x07'
  | 'b' => some '\x08'
  | 'f' => some '\x0c'
  | 'n' => some '\n'
  | 'r' => some '\r'
  | 't' => some '\t'
  | 'v' => some '\x0b'
  | _ => none

/-- The character that a backslash and a character stand for in single quotes. -/
def singleQuotedEscape? : Char → Option Char
  | '\\' => some '\\'
  | '\'' => some '\''
  | _ => none

/-- Replaces escapes; a backslash before any other character stands for itself. -/
def unescape (escape? : Char → Option Char) : List Char → List Char
  | [] => []
  | [c] => [c]
  | c :: d :: rest =>
    if c = '\\' then
      match escape? d with
      | some e => e :: unescape escape? rest
      | none => c :: unescape escape? (d :: rest)
    else c :: unescape escape? (d :: rest)

/-- The text before a comment: a comment starts with a `#` behind white space. -/
def dropComment : List Char → List Char
  | [] => []
  | c :: rest =>
    if isSpace c && (rest.dropWhile isSpace).head? = some '#' then []
    else c :: dropComment rest

/-- The text without white space at its end. -/
def trimEnd (cs : List Char) : List Char :=
  (cs.reverse.dropWhile isSpace).reverse

/-- Reads a quoted value, given the text from its opening quote on. -/
def readQuoted (quote : Char) (escape? : Char → Option Char) (cs : List Char) : Reading String :=
  match splitQuoted? quote (cs.drop 1) with
  | some (body, rest) => .ok (String.ofList (unescape escape? body), rest)
  | none => .error cs

/-- Reads a value, given the text behind the equals sign. -/
def readValue (cs : List Char) : Reading String :=
  let value := cs.dropWhile isGap
  match value with
  | '\'' :: _ => readQuoted '\'' singleQuotedEscape? value
  | '"' :: _ => readQuoted '"' doubleQuotedEscape? value
  | _ =>
    .ok (String.ofList (trimEnd ((dropComment (cs.takeWhile (· ≠ '\n'))).dropWhile isGap)),
      cs.dropWhile (· ≠ '\n'))

/-- Reads an equals sign and a value, if there is an equals sign. -/
def readAssignment (cs : List Char) : Reading (Option String) :=
  match cs with
  | '=' :: rest => (readValue rest).map fun r => (some r.1, r.2)
  | _ => .ok (none, cs)

/-- Drops a comment that starts here or behind white space. -/
def skipComment (cs : List Char) : List Char :=
  match cs.dropWhile isGap with
  | '#' :: rest => rest.dropWhile (· ≠ '\n')
  | _ => cs

/-- Reads the end of a line. -/
def readLineEnd (cs : List Char) : Except (List Char) (List Char) :=
  match cs.dropWhile isGap with
  | [] => .ok []
  | '\n' :: rest => .ok rest
  | _ => .error cs

/-- Reads a statement from its first character on. -/
def readBinding (cs : List Char) : Reading Statement :=
  if cs = [] then .ok (.nothing, [])
  else
    match readName (skipExport cs) with
    | .error stuck => .error stuck
    | .ok (name?, afterName) =>
      match readAssignment (afterName.dropWhile isGap) with
      | .error stuck => .error stuck
      | .ok (value?, afterValue) =>
        (readLineEnd (skipComment afterValue)).map fun rest =>
          match name? with
          | some name => (.binding name value?, rest)
          | none => (.nothing, rest)

/-- Reads a statement with the white space before it; `line` is the line that it starts on. -/
def readStatement (line : Nat) (cs : List Char) : Statement × List Char :=
  match readBinding (cs.dropWhile isSpace) with
  | .ok r => r
  | .error stuck => (.malformed line, (stuck.dropWhile (· ≠ '\n')).drop 1)

/-- The statements from a line on. -/
def statementsFrom (line : Nat) (cs : List Char) : List Statement :=
  if cs = [] then []
  else
    let r := readStatement line cs
    if r.2.length < cs.length then
      r.1 :: statementsFrom (line + (cs.count '\n' - r.2.count '\n')) r.2
    else [r.1]
termination_by cs.length

/-- The text without the mark that tells the order of its bytes, if it starts with that. -/
def dropMark : List Char → List Char
  | '\uFEFF' :: rest => rest
  | cs => cs

/-- The statements of a file. -/
def statements (text : String) : List Statement :=
  statementsFrom 1 (normalize (dropMark text.toList))

/-- The variables of a file in order, with their values. -/
def bindings (text : String) : List (String × Option String) :=
  (statements text).filterMap fun
    | .binding name value => some (name, value)
    | _ => none

/-- The lines on which malformed statements start. -/
def malformedLines (text : String) : List Nat :=
  (statements text).filterMap fun
    | .malformed line => some line
    | _ => none

end EnvFile

end BoxProbe
