/-
Module: BoxProbe.Text.Punycode
Purpose: Texts written in ASCII alone.
Main exports: Punycode.encode
-/
import BoxProbe.Text.Basic

/-!
The ASCII characters of a text come first, with a hyphen behind them if there are any.  The others
follow in the order of their numbers, each as the distance from the one before: places passed over,
counted through the text once for every number in between.  A distance is written with digits of
base 36, of which all but the last reach a threshold; the thresholds follow the distances written
so far.
-/

namespace BoxProbe.Punycode

/-- The digit of a value below 36: a letter, or from 26 on a numeral. -/
def digit (value : Nat) : Char :=
  if value < 26 then Char.ofNat (0x61 + value) else Char.ofNat (0x16 + value)

/-- The threshold of the digit at a position, which counts by 36 from 36 on. -/
def threshold (position bias : Nat) : Nat :=
  if position ≤ bias then 1 else if bias + 26 ≤ position then 26 else position - bias

theorem threshold_pos (position bias : Nat) : 1 ≤ threshold position bias := by
  grind [threshold]

/-- The digits of a distance from a position on. -/
def digits (bias position distance : Nat) : List Char :=
  let t := threshold position bias
  if distance < t then [digit distance]
  else
    digit (t + (distance - t) % (36 - t)) ::
      digits bias (position + 36) ((distance - t) / (36 - t))
termination_by distance
decreasing_by
  have hpos := threshold_pos position bias
  exact Nat.lt_of_le_of_lt (Nat.div_le_self ..) (by omega)

/-- A distance in the range of one digit and a threshold, and 36 for every digit that it takes
more. -/
def settle (distance : Nat) : Nat :=
  if 455 < distance then 36 + settle (distance / 35)
  else 36 * distance / (distance + 38)
termination_by distance
decreasing_by exact Nat.div_lt_self (by omega) (by omega)

/-- The bias after a distance is written, the first one or a later one, with `count` characters
placed. -/
def adapt (isFirst : Bool) (distance count : Nat) : Nat :=
  let damped := if isFirst then distance / 700 else distance / 2
  settle (damped + damped / count)

/-- How far a text is written: the digits, the distance since the last character, the bias, and the
number of characters placed. -/
structure Written where
  chars : List Char := []
  distance : Nat := 0
  bias : Nat := 72
  count : Nat

/-- Passes one character of the text while those with a number are placed, after `plain` ASCII
characters. -/
def pass (plain number : Nat) (w : Written) (c : CodePoint) : Written :=
  if c.val < number then { w with distance := w.distance + 1 }
  else if c.val = number then
    { chars := w.chars ++ digits w.bias 36 w.distance
      distance := 0
      bias := adapt (w.count = plain) w.distance (w.count + 1)
      count := w.count + 1 }
  else w

/-- Writes the characters with the given numbers, in ascending order; `next` is the number behind
the last one written. -/
def write (t : Text) (plain : Nat) : (numbers : List Nat) → (next : Nat) → Written → Written
  | [], _, w => w
  | number :: more, next, w =>
    let start := { w with distance := w.distance + (number - next) * (w.count + 1) }
    let passed := t.foldl (pass plain number) start
    write t plain more (number + 1) { passed with distance := passed.distance + 1 }

/-- Inserts a number into an ascending list, unless it is there. -/
def insert (n : Nat) : List Nat → List Nat
  | [] => [n]
  | m :: rest => if n < m then n :: m :: rest else if n = m then m :: rest else m :: insert n rest

/-- The form of a text in ASCII. -/
def encode (t : Text) : List Char :=
  let plain := t.filter (·.val < 0x80)
  let numbers := (t.filter (0x80 ≤ ·.val)).foldl (fun ns c => insert c.val ns) []
  plain.map (fun c => Char.ofNat c.val) ++ (if plain.isEmpty then [] else ['-']) ++
    (write t plain.length numbers 0x80 { count := plain.length }).chars

end BoxProbe.Punycode
