/-
Module: BoxProbe.Number.Double
Purpose: Double precision numbers as exact data, with rounding from exact quotients.
Main exports: Double, Double.units, Double.ofRatio, Double.ofDecimal, Double.toInt?, Double.ofInt,
  Double.half, Double.less, Double.atMost
-/

/-!
A finite double is a sign and a rank.  Rank 0 is zero, and the ranks that follow number the positive
finite doubles in ascending order, so comparing two doubles of one sign is comparing their ranks.
The magnitude of a rank is a whole number of units of 2^-1074: the ranks below 2^52 are the
subnormal numbers and hold as many units as their rank says, and every later block of 2^52 ranks
is one binade with twice the step of the block before.

Rounding takes an exact quotient to the nearest rank, and a quotient half-way between two ranks to
the even one.
-/

namespace BoxProbe

/-- The number of doubles in one binade. -/
def binade : Nat := Nat.pow 2 52

/-- The number of ranks: 2046 binades and the subnormal numbers with zero. -/
def rankLimit : Nat := 2047 * Nat.pow 2 52

/-- A double precision number. -/
inductive Double where
  | nan
  | infinite (negative : Bool)
  | finite (negative : Bool) (rank : Fin rankLimit)
deriving DecidableEq, Repr

/-- The quotient rounded to the nearest whole number, a half to the even one. -/
def roundDiv (num den : Nat) : Nat :=
  let q := num / den
  let twice := 2 * (num % den)
  if twice < den then q
  else if den < twice then q + 1
  else q + q % 2

namespace Double

/-- The magnitude of a rank in units of 2^-1074. -/
def units (rank : Nat) : Nat :=
  if rank < binade then rank
  else (binade + rank % binade) * Nat.pow 2 (rank / binade - 1)

/-- The rank nearest to the quotient `num / den`, unbounded above. -/
def nearestRank (num den : Nat) : Nat :=
  let scaled := num * Nat.pow 2 1074
  let shift := (scaled / den).log2 - 52
  shift * binade + roundDiv scaled (den * Nat.pow 2 shift)

/-- The finite double of a rank, or the infinity if there is none. -/
def ofRank (negative : Bool) (rank : Nat) : Double :=
  if h : rank < rankLimit then .finite negative ⟨rank, h⟩ else .infinite negative

/-- The double nearest to a signed quotient. -/
def ofRatio (negative : Bool) (num den : Nat) : Double :=
  ofRank negative (nearestRank num den)

/-- Zero, with a sign. -/
def signedZero (negative : Bool) : Double :=
  ofRank negative 0

/-- The number of decimal digits of a number. -/
def digitCount (n : Nat) : Nat :=
  (Nat.toDigits 10 n).length

/-- The double nearest to `mantissa · 10 ^ exponent`.  A number below 10^-330 rounds to zero and one
from 10^309 on to an infinity, so powers of ten outside this range are never formed. -/
def ofDecimal (negative : Bool) (mantissa : Nat) (exponent : Int) : Double :=
  if mantissa = 0 then signedZero negative
  else
    let magnitude : Int := digitCount mantissa + exponent
    if 310 < magnitude then .infinite negative
    else if magnitude < -330 then signedZero negative
    else
      match exponent with
      | .ofNat e => ofRatio negative (mantissa * Nat.pow 10 e) 1
      | .negSucc e => ofRatio negative mantissa (Nat.pow 10 (e + 1))

/-- The double nearest to an integer. -/
def ofInt (n : Int) : Double :=
  ofDecimal (decide (n < 0)) n.natAbs 0

/-- Neither infinite nor NaN. -/
def isFinite : Double → Bool
  | .finite _ _ => true
  | _ => false

/-- Zero of either sign. -/
def isZero : Double → Bool
  | .finite _ rank => rank.val == 0
  | _ => false

/-- Less than or equal to zero; NaN is not. -/
def isNonpositive : Double → Bool
  | .nan => false
  | .infinite negative => negative
  | .finite negative rank => negative || rank.val == 0

/-- Half of a double; the sign stays. -/
def half : Double → Double
  | .finite negative rank => ofRatio negative (units rank.val) (Nat.pow 2 1075)
  | d => d

/-- Strictly less; never with NaN, and the two zeros are equal. -/
def less : Double → Double → Bool
  | .nan, _ | _, .nan => false
  | .infinite a, .infinite b => a && !b
  | .infinite a, .finite _ _ => a
  | .finite _ _, .infinite b => !b
  | .finite false m, .finite false n => m.val < n.val
  | .finite true m, .finite true n => n.val < m.val
  | .finite true m, .finite false n => m.val + n.val ≠ 0
  | .finite false _, .finite true _ => false

/-- The first of two doubles, unless the second is less. -/
def atMost (a b : Double) : Double :=
  if less b a then b else a

/-- The exact value, if there is one. -/
def toRat? : Double → Option Rat
  | .finite negative rank =>
    let magnitude : Rat := mkRat (units rank.val) (Nat.pow 2 1074)
    some (if negative then -magnitude else magnitude)
  | _ => none

/-- The double nearest to an exact value. -/
def ofRat (q : Rat) : Double :=
  ofRatio (decide (q < 0)) q.num.natAbs q.den

/-- The whole part of a finite double. -/
def truncate? : Double → Option Int
  | .finite negative rank =>
    let whole : Int := ((units rank.val / Nat.pow 2 1074 : Nat) : Int)
    some (if negative then -whole else whole)
  | _ => none

/-- The integer that a finite double without a fraction equals. -/
def toInt? : Double → Option Int
  | .finite negative rank =>
    if units rank.val % Nat.pow 2 1074 == 0 then
      let whole : Int := ((units rank.val / Nat.pow 2 1074 : Nat) : Int)
      some (if negative then -whole else whole)
    else none
  | _ => none

end Double

end BoxProbe
