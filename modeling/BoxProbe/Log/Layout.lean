/-
Module: BoxProbe.Log.Layout
Purpose: The layout of log lines.
Main exports: Layout.Field, Layout.isValid, Layout.render
-/
import BoxProbe.Log.Record
import BoxProbe.Number.Double
import BoxProbe.Text.Class
import BoxProbe.Text.Quoted
import BoxProbe.Text.Word

/-!
A layout is a text with fields in it: `%`, the name of the field in parentheses, flags, a width, a
precision, and a letter that says how the value is shown.  Two percent signs stand for one.  A
layout is valid if there is at least one field in it; whether every field can be shown turns out
when a line is rendered.
-/

namespace BoxProbe

namespace Layout

/-- How a value is shown. -/
structure Style where
  alternate : Bool := false
  zero : Bool := false
  left : Bool := false
  space : Bool := false
  plus : Bool := false
  width : Nat := 0
  precision : Option Nat := none
  letter : Char := 's'
deriving DecidableEq, Repr

/-- A piece of a layout. -/
inductive Piece where
  | literal (c : Char)
  | field (name : String) (style : Style)
deriving DecidableEq, Repr

/-- The value of a field. -/
inductive Value where
  | text (t : Text)
  | number (n : Nat)
  /-- Something that is neither, and always shown by the same word. -/
  | word (shown : String)
deriving DecidableEq, Repr

/-- Characters that are flags. -/
def isFlag (c : Char) : Bool :=
  "#0-+ ".toList.contains c

/-- The style that flags ask for. -/
def flagStyle (flags : List Char) : Style :=
  { alternate := flags.contains '#'
    zero := flags.contains '0'
    left := flags.contains '-'
    space := flags.contains ' '
    plus := flags.contains '+' }

/-- The number that digits denote. -/
def natOf (digits : List Char) : Nat :=
  digits.foldl (fun n c => 10 * n + (c.toNat - '0'.toNat)) 0

/-- Reads flags, width, precision and letter: the style and the rest. -/
def style? (cs : List Char) : Option (Style × List Char) :=
  let flags := flagStyle (cs.takeWhile isFlag)
  let cs := cs.dropWhile isFlag
  let sized := { flags with width := natOf (cs.takeWhile Char.isDigit) }
  let cs := cs.dropWhile Char.isDigit
  let (precise, cs) : Style × List Char :=
    match cs with
    | '.' :: more =>
      ({ sized with precision := some (natOf (more.takeWhile Char.isDigit)) },
        more.dropWhile Char.isDigit)
    | _ => (sized, cs)
  let cs :=
    match cs with
    | 'h' :: more => more
    | 'l' :: more => more
    | 'L' :: more => more
    | _ => cs
  match cs with
  | letter :: rest => some ({ precise with letter }, rest)
  | [] => none

/-- Reads the name of a field up to the parenthesis that closes it. -/
def name? : (depth : Nat) → List Char → Option (List Char × List Char)
  | _, [] => none
  | depth, c :: rest =>
    if c = ')' then
      match depth with
      | 0 => some ([], rest)
      | d + 1 => (name? d rest).map fun r => (c :: r.1, r.2)
    else (name? (if c = '(' then depth + 1 else depth) rest).map fun r => (c :: r.1, r.2)

/-- The pieces of a layout, given fuel for each of its characters; nothing if it has a percent sign
without a field. -/
def piecesWithin : (fuel : Nat) → List Char → Option (List Piece)
  | _, [] => some []
  | 0, _ => none
  | fuel + 1, '%' :: '%' :: rest => (piecesWithin fuel rest).map (.literal '%' :: ·)
  | fuel + 1, '%' :: '(' :: rest =>
    (name? 0 rest).bind fun (name, rest) =>
      (style? rest).bind fun (style, rest) =>
        (piecesWithin fuel rest).map (.field (String.ofList name) style :: ·)
  | fuel + 1, c :: rest =>
    if c = '%' then none else (piecesWithin fuel rest).map (.literal c :: ·)

/-- The pieces of a layout. -/
def pieces? (layout : String) : Option (List Piece) :=
  piecesWithin layout.length layout.toList

/-- A character in the name of a field. -/
def isWordChar (c : Char) : Bool :=
  (CodePoint.ofChar c).isWord

/-- A decimal digit of any script. -/
def isAnyDigit (c : Char) : Bool :=
  (CodePoint.ofChar c).digit?.isSome

/-- A letter for a style in either case, where the long s is an s and the i has a point or none, or
a percent sign. -/
def isStyleLetter (c : Char) : Bool :=
  "diouxefgcrsa%\u0130\u0131\u017F".toList.contains c.toLower

/-- Drops a number or a star, if there is one. -/
def skipCount : List Char → List Char
  | '*' :: rest => rest
  | cs => cs.dropWhile isAnyDigit

/-- Whether a field starts here. -/
def startsField : List Char → Bool
  | '%' :: '(' :: rest =>
    match rest.takeWhile isWordChar, rest.dropWhile isWordChar with
    | _ :: _, ')' :: more =>
      let cs := skipCount (more.dropWhile isFlag)
      let letter :=
        match cs with
        | '.' :: '*' :: rest => rest.head?
        | '.' :: d :: rest => if isAnyDigit d then (rest.dropWhile isAnyDigit).head? else none
        | _ => cs.head?
      letter.any isStyleLetter
    | _, _ => false
  | _ => false

/-- Whether a field starts at some character. -/
def hasField : List Char → Bool
  | [] => false
  | c :: rest => startsField (c :: rest) || hasField rest

/-- The layout that an empty one stands for. -/
def orPlain (layout : String) : String :=
  if layout = "" then "%(message)s" else layout

/-- Whether a layout can be used. -/
def isValid (layout : String) : Bool :=
  hasField (orPlain layout).toList

/-- Fills a shown value up to its width, between a sign and digits if it may have zeros there. -/
def Style.fill (s : Style) (head body : Text) (zeros : Bool) : Text :=
  let missing := s.width - (head.length + body.length)
  let blanks : Text := List.replicate missing (CodePoint.ofChar ' ')
  if s.left then head ++ body ++ blanks
  else if zeros && s.zero then head ++ List.replicate missing (CodePoint.ofChar '0') ++ body
  else blanks ++ head ++ body

/-- The digits of a number in a base. -/
def digits (base n : Nat) : List Char :=
  Nat.toDigits base n

/-- Digits with a point behind the first `whole` ones; without any behind it the point is shown only
if it is asked for. -/
def pointed (alternate : Bool) (whole : Nat) (ds : List Char) : List Char :=
  let fraction := ds.drop whole
  ds.take whole ++ (if alternate || !fraction.isEmpty then '.' :: fraction else [])

/-- A number in scientific notation with `places` digits behind the point: its digits without the
point, and its exponent. -/
def scientific (places n : Nat) : List Char × Nat :=
  let ds := digits 10 n
  let exponent := ds.length - 1
  if exponent ≤ places then (ds ++ List.replicate (places - exponent) '0', exponent)
  else
    let rounded := digits 10 (roundDiv n (Nat.pow 10 (exponent - places)))
    if places + 1 < rounded.length then (rounded.take (places + 1), exponent + 1)
    else (rounded, exponent)

/-- An exponent of at least two digits. -/
def exponentPart (e : Nat) : List Char :=
  'e' :: '+' :: (if e < 10 then '0' :: digits 10 e else digits 10 e)

/-- The digits without zeros at their end. -/
def dropZeros (ds : List Char) : List Char :=
  (ds.reverse.dropWhile (· = '0')).reverse

/-- A number in general notation with a number of significant digits. -/
def general (alternate : Bool) (significant n : Nat) : List Char :=
  let places := significant - 1
  let (ds, exponent) := scientific places n
  let trim (whole : Nat) : List Char :=
    if alternate then ds else ds.take whole ++ dropZeros (ds.drop whole)
  if exponent ≤ places then pointed alternate (exponent + 1) (trim (exponent + 1))
  else pointed alternate 1 (trim 1) ++ exponentPart exponent

/-- The digits of a number in a style, with what stands before them. -/
def numeral? (s : Style) (n : Nat) : Option (List Char × List Char) :=
  let whole (base : Nat) (mark : List Char) : Option (List Char × List Char) :=
    let ds := digits base n
    some (if s.alternate then mark else [],
      List.replicate ((s.precision.getD 0) - ds.length) '0' ++ ds)
  let places := s.precision.getD 6
  match s.letter with
  | 'd' | 'i' | 'u' => whole 10 []
  | 'o' => whole 8 ['0', 'o']
  | 'x' => whole 16 ['0', 'x']
  | 'X' => (whole 16 ['0', 'X']).map fun r => (r.1, r.2.map Char.toUpper)
  | 'f' | 'F' =>
    let ds := digits 10 n
    some ([], pointed s.alternate ds.length (ds ++ List.replicate places '0'))
  | 'e' | 'E' =>
    let (ds, exponent) := scientific places n
    let shown := pointed s.alternate 1 ds ++ exponentPart exponent
    some ([], if s.letter = 'E' then shown.map Char.toUpper else shown)
  | 'g' | 'G' =>
    let shown := general s.alternate (max places 1) n
    some ([], if s.letter = 'G' then shown.map Char.toUpper else shown)
  | _ => none

/-- The sign of a number that is not negative. -/
def Style.sign (s : Style) : List Char :=
  if s.plus then ['+'] else if s.space then [' '] else []

/-- A text cut to the precision. -/
def Style.cut (s : Style) (t : Text) : Text :=
  match s.precision with
  | some n => t.take n
  | none => t

/-- A value in a style, if it can be shown so. -/
def show? (s : Style) (v : Value) : Option Text :=
  match s.letter, v with
  | 's', .text t => some (s.fill [] (s.cut t) false)
  | 'r', .text t => some (s.fill [] (s.cut t.quoted) false)
  | 'a', .text t => some (s.fill [] (s.cut t.quotedAscii) false)
  | 'c', .text t => if t.length = 1 then some (s.fill [] t false) else none
  | 'c', .number n => some (s.fill [] [CodePoint.ofNat n] false)
  | 's', .word w | 'r', .word w | 'a', .word w => some (s.fill [] (s.cut (Text.ofString w)) false)
  | _, .number n =>
    if s.letter = 's' ∨ s.letter = 'r' ∨ s.letter = 'a' then
      some (s.fill [] (s.cut ((digits 10 n).map CodePoint.ofChar)) false)
    else
      (numeral? s n).map fun (mark, ds) =>
        s.fill ((s.sign ++ mark).map CodePoint.ofChar) (ds.map CodePoint.ofChar) true
  | _, _ => none

/-- The value of a field of a record, at a time. -/
def value? (time : String) (r : LogRecord) (field : String) : Option Value :=
  match field with
  | "asctime" => some (.text time)
  | "name" => some (.text r.logger)
  | "levelname" => some (.text r.level.name)
  | "levelno" => some (.number r.level.weight)
  | "message" => some (.text r.message)
  | "msg" => some (.text r.message)
  | "threadName" => some (.text "MainThread")
  | "processName" => some (.text "MainProcess")
  | "args" => some (.word "()")
  | "exc_info" | "exc_text" | "stack_info" => some (.word "None")
  | _ => none

/-- A piece of the line of a record, if it can be shown. -/
def Piece.render (time : String) (r : LogRecord) : Piece → Option Text
  | .literal c => some [CodePoint.ofChar c]
  | .field name style => (value? time r name).bind (show? style)

/-- The line of a record, if every field of the layout can be shown. -/
def render (layout time : String) (r : LogRecord) : Option Text :=
  (pieces? (orPlain layout)).bind fun pieces =>
    (pieces.mapM (Piece.render time r)).map List.flatten

end Layout

end BoxProbe
