/-
Module: BoxProbe.Json.Basic
Purpose: JSON values, and objects as ordered lists of fields.
Main exports: Json, Json.Fields, Json.Fields.put, Json.Fields.collapse
-/
import BoxProbe.Text.Basic
import BoxProbe.Number.Double

/-!
Integers and doubles are kept apart, because a frame tells them apart by how the number is written.
An object is the list of its fields in the order in which their keys first appear.
-/

namespace BoxProbe

/-- A JSON value. -/
inductive Json where
  | null
  | bool (b : Bool)
  | int (n : Int)
  | double (d : Double)
  | str (t : Text)
  | arr (items : List Json)
  | obj (fields : List (Text × Json))

namespace Json

/-- The fields of an object, in order. -/
abbrev Fields := List (Text × Json)

namespace Fields

/-- Sets a field: a key that is there keeps its place and takes the new value, a new one goes to
the end. -/
def put : Fields → Text → Json → Fields
  | [], key, value => [(key, value)]
  | (k, v) :: rest, key, value =>
    if k = key then (k, value) :: rest else (k, v) :: put rest key value

/-- The fields of an object as written: of a repeated key the first place and the last value
count. -/
def collapse (written : Fields) : Fields :=
  written.foldl (fun fields f => fields.put f.1 f.2) []

/-- The value of a key. -/
def get? (fields : Fields) (key : String) : Option Json :=
  fields.lookup (Text.ofString key)

end Fields

/-- The string of an ASCII or any other ordinary text. -/
def ofString (s : String) : Json :=
  .str (Text.ofString s)

/-- An object with ordinary keys. -/
def ofFields (fields : List (String × Json)) : Json :=
  .obj (fields.map fun f => (Text.ofString f.1, f.2))

end Json

end BoxProbe
