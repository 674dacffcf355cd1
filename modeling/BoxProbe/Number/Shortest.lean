/-
Module: BoxProbe.Number.Shortest
Purpose: The shortest decimal that reads back as a given double, and its layout.
Main exports: Decimal, Double.shortest, DoubleStyle, Double.render
-/
import BoxProbe.Number.Double

/-!
A double is written with the fewest significant digits that read back as the same double.  For
every number of digits from 1 to 17 the two neighbours of the value on that decimal grid are tried;
the first grid on which one of them reads back wins, of two hits the nearer, and of two equally
near ones the even one.  The digits are laid out with a point where the number is from 10^-4 on and
below 10^16, and with an exponent of at least two digits elsewhere.
-/

namespace BoxProbe

/-- The number `mantissa · 10 ^ exponent`. -/
structure Decimal where
  mantissa : Nat
  exponent : Int
deriving DecidableEq, Repr

namespace Decimal

/-- The same number without zeros at the end of its mantissa. -/
def normalize (d : Decimal) : Decimal :=
  if h : d.mantissa ≠ 0 ∧ d.mantissa % 10 = 0 then
    normalize ⟨d.mantissa / 10, d.exponent + 1⟩
  else d
termination_by d.mantissa
decreasing_by omega

/-- The double nearest to a decimal. -/
def toDouble (negative : Bool) (d : Decimal) : Double :=
  Double.ofDecimal negative d.mantissa d.exponent

end Decimal

namespace Double

/-- The exact value of a rank, as a decimal. -/
def exactDecimal (rank : Nat) : Decimal :=
  ⟨units rank * Nat.pow 5 1074, -1074⟩

/-- The exponent of the leading digit of a rank's magnitude. -/
def leadingExponent (rank : Nat) : Int :=
  (digitCount (units rank * Nat.pow 10 400 / Nat.pow 2 1074) : Int) - 401

/-- Whether a decimal reads back as a rank. -/
def readsBack (rank : Nat) (d : Decimal) : Bool :=
  d.toDouble false == ofRank false rank

/-- The nearest of the two neighbours of `num / den` on the grid of a step among those that pass a
check. -/
def neighbor? (passes : Decimal → Bool) (num den : Nat) (step : Int) : Option Decimal :=
  let below : Decimal := ⟨num / den, step⟩
  let above : Decimal := ⟨num / den + 1, step⟩
  match passes below, passes above with
  | true, true => some ⟨roundDiv num den, step⟩
  | true, false => some below
  | false, true => some above
  | false, false => none

/-- The nearest of the two neighbours of a rank's magnitude on the grid of `digits` significant
digits among those that read back as the rank. -/
def onGrid? (rank digits : Nat) : Option Decimal :=
  let step : Int := leadingExponent rank + 1 - digits
  let scale := Nat.pow 10 step.natAbs
  if step < 0 then neighbor? (readsBack rank) (units rank * scale) (Nat.pow 2 1074) step
  else neighbor? (readsBack rank) (units rank) (Nat.pow 2 1074 * scale) step

/-- The shortest decimal that reads back as the rank.  Seventeen digits always suffice; the exact
value stands behind them, so that what is written reads back whatever the search finds. -/
def shortest (rank : Nat) : Decimal :=
  (((List.range 17).findSome? fun d => onGrid? rank (d + 1)).getD (exactDecimal rank)).normalize

end Double

/-- How the numbers that are no decimals are spelled. -/
structure DoubleStyle where
  nan : String
  infinity : String
deriving Repr

namespace Decimal

/-- The decimal exponents that are written with a point and without an exponent. -/
def isPositional (leading : Int) : Bool :=
  -4 ≤ leading && leading < 16

/-- A decimal number in digits: with a point, or with an exponent of at least two digits. -/
def layout (d : Decimal) : List Char :=
  let digits := Nat.toDigits 10 d.mantissa
  let leading : Int := digits.length + d.exponent - 1
  if isPositional leading then
    if leading < 0 then
      ['0', '.'] ++ List.replicate (leading.natAbs - 1) '0' ++ digits
    else
      let whole := leading.toNat + 1
      if digits.length ≤ whole then
        digits ++ List.replicate (whole - digits.length) '0' ++ ['.', '0']
      else
        digits.take whole ++ ['.'] ++ digits.drop whole
  else
    let point := if digits.length ≤ 1 then [] else ['.']
    let sign := if leading < 0 then '-' else '+'
    let exponent := Nat.toDigits 10 leading.natAbs
    let filler := if exponent.length < 2 then ['0'] else []
    digits.take 1 ++ point ++ digits.drop 1 ++ ['e', sign] ++ filler ++ exponent

end Decimal

namespace Double

/-- The written form of a double, as characters. -/
def chars (style : DoubleStyle) : Double → List Char
  | .nan => style.nan.toList
  | .infinite negative => (if negative then ['-'] else []) ++ style.infinity.toList
  | .finite negative rank =>
    (if negative then ['-'] else []) ++
      (if rank.val = 0 then ['0', '.', '0'] else (shortest rank.val).layout)

/-- The spelling in messages and settings. -/
def plainStyle : DoubleStyle := ⟨"nan", "inf"⟩

/-- The spelling in JSON. -/
def jsonStyle : DoubleStyle := ⟨"NaN", "Infinity"⟩

/-- The written form of a double in messages and settings. -/
def render (d : Double) : String :=
  String.ofList (d.chars plainStyle)

end Double

end BoxProbe
