/-
Module: BoxProbe.Settings.Environment
Purpose: Environment variables.
Main exports: Environment, Environment.get?, Environment.set, Environment.unset, EnvironmentFault
-/
import BoxProbe.Text.Basic

/-!
An environment maps names to values.  A name or a value with a NUL in it, a name with an equals sign
in it and the empty name cannot be set; this is also the order in which they are noticed.
-/

namespace BoxProbe

/-- Environment variables with their values. -/
abbrev Environment := List (String × String)

/-- Why a variable cannot be set. -/
inductive EnvironmentFault where
  | nul
  | equalsSign
  | noName
deriving DecidableEq, Repr

namespace Environment

/-- The value of a variable. -/
def get? (e : Environment) (name : String) : Option String :=
  (e.find? fun v => v.1 = name).map (·.2)

/-- Removes a variable. -/
def unset (e : Environment) (name : String) : Environment :=
  e.filter fun v => v.1 ≠ name

/-- Gives a variable a value, whatever they are. -/
def put (e : Environment) (name value : String) : Environment :=
  e.unset name ++ [(name, value)]

/-- Why a variable cannot get a value, if it cannot. -/
def fault? (name value : String) : Option EnvironmentFault :=
  if '\x00' ∈ name.toList ∨ '\x00' ∈ value.toList then some .nul
  else if '=' ∈ name.toList then some .equalsSign
  else if name = "" then some .noName
  else none

/-- Sets a variable. -/
def set (e : Environment) (name value : String) : Except EnvironmentFault Environment :=
  match fault? name value with
  | some fault => .error fault
  | none => .ok (e.put name value)

end Environment

end BoxProbe
