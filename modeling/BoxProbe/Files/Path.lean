/-
Module: BoxProbe.Files.Path
Purpose: File paths in their normal form.
Main exports: FilePath, FilePath.ofString, FilePath.toString, FilePath.asksForDirectory,
  FilePath.join
-/
import BoxProbe.Text.Pieces

/-!
A path is a starting point and the names to follow from it.  Empty names and the name `.` say
nothing and are dropped; `..` stays, because what it means depends on the directories.  Exactly two
slashes in front are a starting point of their own, any other number of them is the root.
-/

namespace BoxProbe

/-- Where a path starts. -/
inductive PathStart where
  /-- At the working directory. -/
  | here
  /-- At the root. -/
  | root
  /-- At the place that two slashes name. -/
  | doubleRoot
deriving DecidableEq, Repr

namespace PathStart

/-- What a path with this start begins with. -/
def toString : PathStart → String
  | .here => ""
  | .root => "/"
  | .doubleRoot => "//"

/-- The start of a path with a number of slashes in front. -/
def ofSlashes : Nat → PathStart
  | 0 => .here
  | 2 => .doubleRoot
  | _ => .root

end PathStart

/-- A path: its start and the names that it follows. -/
structure FilePath where
  start : PathStart := .here
  names : List String := []
deriving DecidableEq, Repr

namespace FilePath

/-- A piece that names something: neither empty nor the directory itself. -/
def isName (piece : String) : Bool :=
  piece ≠ "" && piece ≠ "."

/-- The path that a text writes. -/
def ofString (s : String) : FilePath :=
  { start := .ofSlashes (s.toList.takeWhile (· = '/')).length
    names := ((pieces (· == '/') s.toList).map String.ofList).filter isName }

/-- The path as text; a path that goes nowhere is a dot. -/
def toString (p : FilePath) : String :=
  if p.start = .here ∧ p.names = [] then "."
  else p.start.toString ++ "/".intercalate p.names

/-- Whether a text, taken as a path as it is, can only lead to a directory: it ends with a slash or
with the name `.`. -/
def asksForDirectory (s : String) : Bool :=
  !(((pieces (· == '/') s.toList).getLast?.map String.ofList).any isName)

/-- The second path, seen from the first. -/
def join (p q : FilePath) : FilePath :=
  if q.start = .here then { p with names := p.names ++ q.names } else q

end FilePath

end BoxProbe
