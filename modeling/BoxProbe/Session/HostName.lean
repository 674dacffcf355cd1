/-
Module: BoxProbe.Session.HostName
Purpose: Which names of hosts can be written in ASCII.
Main exports: HostName.Flaw, HostName.Flaw.message, HostName.prepared, HostName.flaw?
-/
import BoxProbe.Text.Composed
import BoxProbe.Text.Direction
import BoxProbe.Text.Folded
import BoxProbe.Text.Punycode
import BoxProbe.Text.Quoted

/-!
A host name is a list of labels with points between them.  A label in ASCII is taken as it is; any
other is prepared, that is folded and composed, and written in ASCII behind a mark, if it is not
ASCII by then.  What is written has 1 to 63 characters.  A prepared label holds no blanks, controls
or private characters, and it is written in one direction.
-/

namespace BoxProbe

namespace HostName

/-- What is wrong with a host name. -/
inductive Flaw where
  /-- A label has no characters, or more than 63. -/
  | size
  /-- The last label of a name in ASCII has more than 63 characters. -/
  | long
  /-- A label has a character that names do not have. -/
  | character (c : CodePoint)
  /-- A label is written in both directions. -/
  | mixed
  /-- A label is written from right to left, but does not begin and end so. -/
  | loose
  /-- A label that is not ASCII begins like one that stands for others. -/
  | marked
deriving DecidableEq, Repr

/-- What is wrong, in words. -/
def Flaw.message : Flaw → Text
  | .size => "label empty or too long"
  | .long => "label too long"
  | .character c => ("Invalid character " : Text) ++ Text.quoted [c]
  | .mixed => "Violation of BIDI requirement 2"
  | .loose => "Violation of BIDI requirement 3"
  | .marked => "Label starts with ACE prefix"

/-- What a label in ASCII begins with if it stands for another one. -/
def mark : Text := "xn--"

/-- The longest label. -/
def maxLabel : Nat := 63

/-- Blanks, controls, private characters, surrogates and code points that are no characters, as
ranges with both ends included; ASCII is free of them. -/
def prohibitedRanges : List (Nat × Nat) :=
  [
    (0x80, 0xa0), (0x340, 0x341), (0x6dd, 0x6dd), (0x70f, 0x70f), (0x1680, 0x1680),
    (0x180e, 0x180e), (0x2000, 0x200f), (0x2028, 0x202f), (0x205f, 0x2063), (0x206a, 0x206f),
    (0x2ff0, 0x2ffb), (0x3000, 0x3000), (0xd800, 0xf8ff), (0xfdd0, 0xfdef), (0xfeff, 0xfeff),
    (0xfff9, 0xffff), (0x1d173, 0x1d17a), (0x1fffe, 0x1ffff), (0x2fffe, 0x2ffff),
    (0x3fffe, 0x3ffff), (0x4fffe, 0x4ffff), (0x5fffe, 0x5ffff), (0x6fffe, 0x6ffff),
    (0x7fffe, 0x7ffff), (0x8fffe, 0x8ffff), (0x9fffe, 0x9ffff), (0xafffe, 0xaffff),
    (0xbfffe, 0xbffff), (0xcfffe, 0xcffff), (0xdfffe, 0xdffff), (0xe0001, 0xe0001),
    (0xe0020, 0xe007f), (0xefffe, 0x10ffff)
  ]

/-- Whether a prepared label may not have a code point. -/
def isProhibited (c : CodePoint) : Bool :=
  prohibitedRanges.any fun r => r.1 ≤ c.val && c.val ≤ r.2

/-- Whether a text is in ASCII. -/
def isAscii (t : Text) : Bool :=
  t.all (·.val < 0x80)

/-- A label as it is compared with others. -/
def prepared (label : Text) : Text :=
  label.folded.ordered.composed

/-- What is wrong with a label of a length. -/
def sizeFlaw? (length : Nat) : Option Flaw :=
  if 0 < length ∧ length ≤ maxLabel then none else some .size

/-- What is wrong with the direction of a prepared label. -/
def directionFlaw? (t : Text) : Option Flaw :=
  if !t.any CodePoint.isRightToLeft then none
  else if t.any CodePoint.isLeftToRight then some .mixed
  else if t.head?.any CodePoint.isRightToLeft && t.getLast?.any CodePoint.isRightToLeft then none
  else some .loose

/-- What is wrong with the ASCII form of a prepared label. -/
def formFlaw? (t : Text) : Option Flaw :=
  if isAscii t then sizeFlaw? t.length
  else if mark.isPrefixOf t then some .marked
  else sizeFlaw? (mark.length + (Punycode.encode t).length)

/-- What is wrong with a label. -/
def labelFlaw? (label : Text) : Option Flaw :=
  if isAscii label then sizeFlaw? label.length
  else
    let t := prepared label
    ((t.find? isProhibited).map Flaw.character).or ((directionFlaw? t).or (formFlaw? t))

/-- A point, or another sign that parts labels as points do. -/
def isPoint (c : Char) : Bool :=
  c == '.' || c == '\u3002' || c == '\uFF0E' || c == '\uFF61'

/-- A name without the Kelvin sign, the only one outside ASCII with a lower case in ASCII; behind a
percent sign case is kept. -/
def withoutKelvin (host : List Char) : List Char :=
  (host.takeWhile (· ≠ '%')).map (fun c => if c = '\u212A' then 'k' else c) ++
    host.dropWhile (· ≠ '%')

/-- What is wrong with a name in ASCII; behind the last point there may be nothing. -/
def plainFlaw? (host : List Char) : Option Flaw :=
  let labels := pieces (· == '.') host
  (labels.dropLast.findSome? fun label => sizeFlaw? label.length).or
    (if labels.getLast?.any (maxLabel < ·.length) then some .long else none)

/-- What is wrong with a host name.  One label or more must come before the last point. -/
def flaw? (host : List Char) : Option Flaw :=
  let plain := withoutKelvin host
  if plain.all (·.toNat < 0x80) then plainFlaw? plain
  else
    let labels := pieces isPoint plain
    let named := if labels.getLast? = some [] then labels.dropLast else labels
    named.findSome? fun label => labelFlaw? (label.map CodePoint.ofChar)

end HostName

end BoxProbe
