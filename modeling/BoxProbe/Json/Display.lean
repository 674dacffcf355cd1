/-
Module: BoxProbe.Json.Display
Purpose: How a decoded value is shown in messages for people.
Main exports: Json.shown, Json.inline
-/
import BoxProbe.Json.Basic
import BoxProbe.Number.Shortest
import BoxProbe.Text.Quoted

/-!
Messages for people do not use JSON: the literals are `None`, `True` and `False`, and strings stand
in the quotes of `Text.quoted`.
-/

namespace BoxProbe

/-- The decimal text of an integer. -/
def intText (n : Int) : Text :=
  Text.ofString (toString n)

namespace Json

mutual

/-- A value with its strings in quotes. -/
def shown : Json → Text
  | .null => "None"
  | .bool true => "True"
  | .bool false => "False"
  | .int n => intText n
  | .double d => d.render
  | .str t => t.quoted
  | .arr items => ("[" : Text) ++ shownItems items ++ ("]" : Text)
  | .obj fields => ("\x7b" : Text) ++ shownFields fields ++ ("\x7d" : Text)

/-- The items of an array, separated by commas. -/
def shownItems : List Json → Text
  | [] => []
  | [v] => shown v
  | v :: rest => shown v ++ (", " : Text) ++ shownItems rest

/-- The fields of an object, separated by commas. -/
def shownFields : List (Text × Json) → Text
  | [] => []
  | [(k, v)] => k.quoted ++ (": " : Text) ++ shown v
  | (k, v) :: rest =>
    k.quoted ++ (": " : Text) ++ shown v ++ (", " : Text) ++ shownFields rest

end

/-- A value inside a sentence: a string stands there without quotes. -/
def inline : Json → Text
  | .str t => t
  | v => v.shown

end Json

end BoxProbe
