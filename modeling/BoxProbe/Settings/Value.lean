/-
Module: BoxProbe.Settings.Value
Purpose: Reading the text of a setting as a value.
Main exports: SettingKind, SettingValue, SettingValue.read?, Setting.int?, Setting.double?,
  Setting.double, Setting.flag
-/
import BoxProbe.Failure.Basic
import BoxProbe.Files.Path
import BoxProbe.Number.Numeral

/-!
Settings come as text.  A text that does not read as its setting asks for leaves the setting at its
default; a flag is on for the word `true` alone, and any other text turns it off.
-/

namespace BoxProbe

namespace Setting

/-- The integer of a setting. -/
def int? (text : String) : Option Int :=
  match Text.readInt (Text.ofString text) with
  | .ok n => some n
  | .error _ => none

/-- The number of a setting. -/
def double? (text : String) : Option Double :=
  Text.readDouble? (Text.ofString text)

/-- The number that a text must be. -/
def double (text : String) : Except Failure Double :=
  match double? text with
  | some d => .ok d
  | none =>
    .error (.plain .value [.str (("could not convert string to float: " : Text) ++
      (Text.ofString text).quoted)])

/-- The flag of a setting. -/
def flag (text : String) : Bool :=
  Text.lower (Text.ofString text) == Text.ofString "true"

/-- A text read by a reader, or else a default. -/
def orDefault {α : Type} (read? : String → Option α) (default : α) (text? : Option String) : α :=
  (text?.bind read?).getD default

end Setting

/-- What a setting can be. -/
inductive SettingKind where
  | int
  | double
  | flag
  | text
  | path
deriving DecidableEq, Repr

/-- A setting's value. -/
inductive SettingValue where
  | int (n : Int)
  | double (d : Double)
  | flag (b : Bool)
  | text (s : String)
  | path (p : FilePath)
deriving DecidableEq, Repr

namespace SettingValue

/-- The value of a kind that a text denotes. -/
def read? (kind : SettingKind) (text : String) : Option SettingValue :=
  match kind with
  | .int => (Setting.int? text).map .int
  | .double => (Setting.double? text).map .double
  | .flag => some (.flag (Setting.flag text))
  | .text => some (.text text)
  | .path => some (.path (FilePath.ofString text))

end SettingValue

end BoxProbe
