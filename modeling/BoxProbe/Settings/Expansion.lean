/-
Module: BoxProbe.Settings.Expansion
Purpose: References to variables inside the values of variables, and the loading of a file.
Main exports: Expansion.atoms, Expansion.values, Environment.load
-/
import BoxProbe.Settings.EnvFile
import BoxProbe.Settings.Environment

/-!
A value may refer to a variable as `$` and its name in braces, with a default behind `:-`.  The
environment answers first, then the values given earlier in the same file.  Loading a file never
changes a variable that the environment has.
-/

namespace BoxProbe

namespace Expansion

/-- A piece of a value. -/
inductive Atom where
  | literal (c : Char)
  | reference (name : String) (default : String)
deriving DecidableEq, Repr

/-- Reads a reference behind its opening brace: the atom and what follows its closing brace. -/
def reference? (cs : List Char) : Option (Atom × List Char) :=
  let isName (c : Char) : Bool := c ≠ '}' && c ≠ ':'
  let name := String.ofList (cs.takeWhile isName)
  match cs.dropWhile isName with
  | '}' :: rest => some (.reference name "", rest)
  | ':' :: '-' :: more =>
    match more.dropWhile (· ≠ '}') with
    | _ :: rest => some (.reference name (String.ofList (more.takeWhile (· ≠ '}'))), rest)
    | [] => none
  | _ => none

/-- The atoms of a value, given fuel for each of its characters. -/
def atomsWithin : (fuel : Nat) → List Char → List Atom
  | 0, _ => []
  | _, [] => []
  | fuel + 1, c :: rest =>
    match c, rest with
    | '$', '{' :: body =>
      match reference? body with
      | some (atom, more) => atom :: atomsWithin fuel more
      | none => .literal c :: atomsWithin fuel rest
    | _, _ => .literal c :: atomsWithin fuel rest

/-- The atoms of a value. -/
def atoms (value : String) : List Atom :=
  atomsWithin value.length value.toList

/-- Variables of a file with their values; a variable may be named and have none. -/
abbrev Values := List (String × Option String)

/-- What a variable of a file stands for, if the file names it. -/
def Values.get? (values : Values) (name : String) : Option (Option String) :=
  (values.find? fun v => v.1 = name).map (·.2)

/-- Gives a variable a value; the variable keeps its position if it has one. -/
def Values.put (values : Values) (name : String) (value : Option String) : Values :=
  if (Values.get? values name).isSome then
    values.map fun v => if v.1 = name then (name, value) else v
  else values ++ [(name, value)]

/-- What an atom stands for. -/
def Atom.resolve (e : Environment) (values : Values) : Atom → String
  | .literal c => String.ofList [c]
  | .reference name default =>
    match e.get? name, Values.get? values name with
    | some value, _ => value
    | none, some value? => value?.getD ""
    | none, none => default

/-- A value with its references replaced. -/
def resolve (e : Environment) (values : Values) (value : String) : String :=
  String.join ((atoms value).map (Atom.resolve e values))

/-- The values of the variables of a file. -/
def values (e : Environment) (bindings : Values) : Values :=
  bindings.foldl (fun found b => found.put b.1 (b.2.map (resolve e found))) []

end Expansion

namespace Environment

/-- The variable that forbids the loading of files. -/
def disablingName : String := "PYTHON_DOTENV_DISABLED"

/-- Whether files are loaded at all.  Words are compared without regard to case, and the long s is
an s. -/
def isLoading (e : Environment) : Bool :=
  match e.get? disablingName with
  | some value =>
    let word := Text.lower ((Text.ofString value).map fun c => if c.val = 0x17F then 0x73 else c)
    !(["1", "true", "t", "yes", "y"].any fun w => Text.ofString w == word)
  | none => true

/-- Sets, one after another, the variables that the environment does not have and that have a value,
until one cannot be set. -/
def setMissing (e : Environment) : Expansion.Values → Environment × Option EnvironmentFault
  | [] => (e, none)
  | (name, value?) :: rest =>
    match e.get? name, value? with
    | none, some value =>
      match e.set name value with
      | .ok e' => setMissing e' rest
      | .error fault => (e, some fault)
    | _, _ => setMissing e rest

/-- Loads the text of a file. -/
def load (e : Environment) (text : String) : Environment × Option EnvironmentFault :=
  if e.isLoading then e.setMissing (Expansion.values e (EnvFile.bindings text)) else (e, none)

end Environment

end BoxProbe
