/-
Module: BoxProbe.Session.HostNumber
Purpose: Numeric host names.
Main exports: HostNumber.isV4, HostNumber.isV6, HostNumber.isFuture
-/
import BoxProbe.Text.Hexadecimal
import BoxProbe.Text.Pieces

/-!
A numeric host of version 4 is four decimal numbers up to 255; one of version 6 is eight hexadecimal
numbers of up to four digits, of which one run of zeros may be left out and the last two may be
written as a host of version 4.  A host of a later version only has to say which one it is.
-/

namespace BoxProbe

namespace HostNumber

/-- A decimal number up to 255, without zeros in front. -/
def isByte (ds : List Char) : Bool :=
  !ds.isEmpty && ds.length ≤ 3 && ds.all Char.isDigit && (ds = ['0'] || ds.head? ≠ some '0') &&
    ds.foldl (fun n c => 10 * n + (c.toNat - '0'.toNat)) 0 ≤ 255

/-- A host of version 4. -/
def isV4 (cs : List Char) : Bool :=
  let numbers := pieces (· == '.') cs
  numbers.length = 4 && numbers.all isByte

/-- A hexadecimal number of up to four digits. -/
def isGroup (ds : List Char) : Bool :=
  !ds.isEmpty && ds.length ≤ 4 && ds.all isHexDigit

/-- Pieces in which a host of version 4 at the end counts as two groups. -/
def widenLast (groups : List (List Char)) : Option (List (List Char)) :=
  match groups.getLast? with
  | some last =>
    if last.contains '.' then
      if isV4 last then some (groups.dropLast ++ [['0'], ['0']]) else none
    else some groups
  | none => none

/-- The number of groups on one side of a gap; a single empty piece is none. -/
def countBeside (groups : List (List Char)) : Option Nat :=
  if groups = [[]] then some 0
  else if groups.all isGroup then some groups.length
  else none

/-- The pieces of a host of version 6 between its colons: eight groups, or less with one gap. -/
def areGroups (groups : List (List Char)) : Bool :=
  let inner := (groups.drop 1).dropLast
  match inner.count [] with
  | 0 => groups.length = 8 && groups.all isGroup
  | 1 =>
    let gap := inner.idxOf [] + 1
    match countBeside (groups.take gap), countBeside (groups.drop (gap + 1)) with
    | some front, some back => front + back < 8
    | _, _ => false
  | _ => false

/-- A host of version 6, perhaps with a scope behind a percent sign. -/
def isV6 (cs : List Char) : Bool :=
  let address := cs.takeWhile (· ≠ '%')
  let scope := cs.dropWhile (· ≠ '%')
  let scopeFits := scope = [] || (scope.length ≠ 1 && !(scope.drop 1).contains '%')
  let groups := pieces (· == ':') address
  scopeFits && 3 ≤ groups.length && (widenLast groups).any areGroups

/-- A host of a later version: `v`, the version, a point and something. -/
def isFuture (cs : List Char) : Bool :=
  match cs with
  | 'v' :: rest =>
    match rest.takeWhile isHexDigit, rest.dropWhile isHexDigit with
    | _ :: _, '.' :: name => !name.isEmpty && !name.contains '\n'
    | _, _ => false
  | _ => false

end HostNumber

end BoxProbe
