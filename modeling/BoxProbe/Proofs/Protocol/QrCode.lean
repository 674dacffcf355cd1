/-
Module: BoxProbe.Proofs.Protocol.QrCode
Purpose: Which payloads are QR codes, by the exact value of their type.
Trusted boundary: none
Main exports: Json.exactValue?, Json.scanText?, Payload.scanText?_eq
-/
import BoxProbe.Proofs.Number.Double
import BoxProbe.Protocol.Frame

namespace BoxProbe

/-!
The code asks whether a double is the one double nearest to the number of the type.  That is whether
its exact value is that number, since no two doubles have the value one.
-/

namespace Json

/-- The exact value of a number; a boolean is none, and neither is what is infinite or no number. -/
def exactValue? : Json → Option Rat
  | .int n => some n
  | .double d => d.toRat?
  | _ => none

/-- The text of a QR code: the `Text` of an object whose `Type` is a number equal to one, null
where it has none. -/
def scanText? : Json → Option Json
  | .obj fields =>
    match Json.Fields.get? fields "Type" with
    | some tag =>
      if tag.exactValue? = some 1 then some ((Json.Fields.get? fields "Text").getD .null) else none
    | none => none
  | _ => none

end Json

namespace Payload

/-- The code finds the tags that are numbers of the value one. -/
theorem isQrTag_iff (tag : Json) : isQrTag tag = true ↔ tag.exactValue? = some 1 := by
  cases tag with
  | int n =>
    simp only [isQrTag, Json.exactValue?, beq_iff_eq, Option.some.injEq]
    exact_mod_cast Iff.rfl
  | double d =>
    simp only [isQrTag, Json.exactValue?, beq_iff_eq]
    exact (Double.toRat?_eq_one_iff d).symm
  | _ => simp [isQrTag, Json.exactValue?]

/-- The code finds the QR codes, with their texts. -/
theorem scanText?_eq (payload : Json) :
    payload.scanText? = if isQrCode payload then some (textOf payload) else none := by
  cases payload with
  | obj fields =>
    cases typed : Json.Fields.get? fields "Type" with
    | none => simp [Json.scanText?, isQrCode, typeTag, typed, isQrTag]
    | some tag => simp [Json.scanText?, isQrCode, typeTag, textOf, typed, isQrTag_iff]
  | _ => simp [Json.scanText?, isQrCode, typeTag, isQrTag]

end Payload

end BoxProbe
