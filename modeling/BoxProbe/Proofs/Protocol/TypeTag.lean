/-
Module: BoxProbe.Proofs.Protocol.TypeTag
Purpose: What a payload is by its raw type, beside the message that it is read as.
Trusted boundary: none
Main exports: Double.toRat?_of_toInt?, Lenient.exactValue?_of_int?, Message.reads_of_ofJson?,
  Payload.isQrCode_agrees
-/
import BoxProbe.Proofs.Protocol.Message
import BoxProbe.Proofs.Protocol.QrCode
import Mathlib.Data.Nat.Cast.Field

namespace BoxProbe

/-!
A probe compares the number under the wire name of the type; a message has the integer that a
lenient reader takes from it, under either name.  The reader takes no integer from a number but its
exact value, and the wire name comes first.  So wherever a payload reads as a message, the two agree
on numbers, and what a probe takes for a QR code is one.
-/

theorem mkRat_pow_of_mod_eq_zero {n e : Nat} (whole : n % Nat.pow 2 e = 0) :
    mkRat n (Nat.pow 2 e) = ((n / Nat.pow 2 e : Nat) : Rat) := by
  have nonzero : ((Nat.pow 2 e : Nat) : Rat) ≠ 0 :=
    Nat.cast_ne_zero.mpr (Nat.pow_pos Nat.two_pos).ne'
  rw [Rat.mkRat_eq_div, Nat.cast_div (Nat.dvd_of_mod_eq_zero whole) nonzero]
  rfl

/-- A double that is read as an integer has its value. -/
theorem Double.toRat?_of_toInt? {d : Double} {n : Int} (h : d.toInt? = some n) :
    d.toRat? = some (n : Rat) := by
  cases d with
  | nan => cases h
  | infinite negative => cases h
  | finite negative rank =>
    simp only [toInt?, beq_iff_eq, Option.ite_none_right_eq_some, Option.some.injEq] at h
    obtain ⟨whole, rfl⟩ := h
    simp only [toRat?, mkRat_pow_of_mod_eq_zero whole]
    generalize units rank.val / Nat.pow 2 1074 = k
    cases negative <;> simp

/-- Whether a value is a number; a boolean is none. -/
def Json.IsNumber : Json → Prop
  | .int _ | .double _ => True
  | _ => False

theorem Json.isNumber_of_exactValue? {v : Json} {q : Rat} (h : v.exactValue? = some q) :
    v.IsNumber := by
  cases v with
  | int | double => trivial
  | _ => cases h

/-- The integer that a number is read as is its exact value. -/
theorem Lenient.exactValue?_of_int? {v : Json} {n : Int} (number : v.IsNumber)
    (read : int? v = some n) : v.exactValue? = some (n : Rat) := by
  cases v with
  | int m =>
    obtain rfl := Option.some.inj read
    rfl
  | double d =>
    obtain ⟨m, whole, small⟩ := Option.bind_eq_some_iff.mp read
    split_ifs at small
    obtain rfl := Option.some.inj small
    exact Double.toRat?_of_toInt? whole
  | _ => exact number.elim

/-- What is under the wire name of a field is what is read, whatever is under its plain name. -/
theorem Lenient.present?_of_wire {name : FieldName} {fields : Json.Fields} {v : Json}
    (found : fields.get? name.wire = some v) : present? name fields = some v := by
  rw [present?, found]

/-- Where the type and the text of a message come from. -/
theorem Message.reads_of_ofJson? {p : Json} {m : Message} (h : ofJson? p = some m) :
    ∃ fields, p = .obj fields ∧
      Lenient.required? typeName Lenient.int? fields = some m.type ∧
      Lenient.field? textName [] Lenient.text? fields = some m.text := by
  cases p with
  | obj fields =>
    obtain ⟨type, readType, h⟩ := Option.bind_eq_some_iff.mp h
    obtain ⟨text, readText, h⟩ := Option.bind_eq_some_iff.mp h
    obtain ⟨limit, -, h⟩ := Option.bind_eq_some_iff.mp h
    obtain ⟨value, -, h⟩ := Option.bind_eq_some_iff.mp h
    obtain ⟨entities, -, h⟩ := Option.bind_eq_some_iff.mp h
    obtain ⟨useCase, -, h⟩ := Option.bind_eq_some_iff.mp h
    obtain rfl := Option.some.inj h
    exact ⟨fields, rfl, readType, readText⟩
  | _ => cases h

namespace Payload

variable {p : Json} {m : Message}

/-- If the raw type of a message is a number, it is the type of the message. -/
theorem exactValue?_typeTag (read : Message.ofJson? p = some m) (number : (typeTag p).IsNumber) :
    (typeTag p).exactValue? = some (m.type : Rat) := by
  obtain ⟨fields, rfl, type, -⟩ := Message.reads_of_ofJson? read
  cases found : Json.Fields.get? fields "Type" with
  | none => simp [typeTag, found, Json.IsNumber] at number
  | some tag =>
    have tagged : typeTag (.obj fields) = tag := by simp [typeTag, found]
    have present : Lenient.present? Message.typeName fields = some tag :=
      Lenient.present?_of_wire found
    rw [tagged] at number ⊢
    rw [Lenient.required?, present] at type
    exact Lenient.exactValue?_of_int? number type

/-- The raw text of a message that has one is the text of the message. -/
theorem textOf_eq {fields : Json.Fields} (read : Message.ofJson? (.obj fields) = some m)
    (named : Text.ofString "Text" ∈ fields.map Prod.fst) :
    textOf (.obj fields) = .str m.text := by
  obtain ⟨other, same, -, text⟩ := Message.reads_of_ofJson? read
  obtain rfl := Json.obj.inj same
  obtain ⟨v, found⟩ : ∃ v, fields.get? "Text" = some v := by
    obtain ⟨f, inside, key⟩ := List.mem_map.mp named
    exact Option.isSome_iff_exists.mp (List.lookup_isSome_iff.mpr ⟨f, inside, by simp [key]⟩)
  have present : Lenient.present? Message.textName fields = some v :=
    Lenient.present?_of_wire found
  rw [Lenient.field?, present] at text
  cases v with
  | str t =>
    obtain rfl := Option.some.inj text
    simp [textOf, found]
  | _ => cases text

/-- Wherever a payload reads as a message and its raw type is a number, the payload is a QR code
exactly if the message is one.  If it has a raw text then this is the text of the message.  Whatever
the raw type, a payload that is a QR code reads as no message but one of type one. -/
theorem isQrCode_agrees (read : Message.ofJson? p = some m) :
    ((typeTag p).IsNumber → (isQrCode p = true ↔ m.messageType? = some .qrCode)) ∧
      (∀ fields, p = .obj fields → Text.ofString "Text" ∈ fields.map Prod.fst →
        textOf p = .str m.text) ∧
      (isQrCode p = true → m.type = 1) := by
  have value (number : (typeTag p).IsNumber) : isQrCode p = true ↔ m.type = 1 := by
    rw [isQrCode, isQrTag_iff, exactValue?_typeTag read number, Option.some.injEq]
    exact_mod_cast Iff.rfl
  refine ⟨fun number => ?_, ?_, fun scanned => ?_⟩
  · rw [value number, Message.messageType?_eq_some]
    rfl
  · rintro fields rfl named
    exact textOf_eq read named
  · have number := Json.isNumber_of_exactValue? ((isQrTag_iff (typeTag p)).mp scanned)
    exact (value number).mp scanned

/-- A whole double under the wire name, with another type under the plain name. -/
theorem isQrCode_agrees_double :
    let p := Json.obj [(Text.ofString "type", .int 3), (Text.ofString "Text", .str "A"),
      (Text.ofString "Type", .double (Double.ofInt 1))]
    (isQrCode p = true ↔ ({ type := 1, text := "A" } : Message).messageType? = some .qrCode) ∧
      textOf p = .str "A" := by
  intro p
  have read : Message.ofJson? p = some { type := 1, text := "A" } := by decide +kernel
  obtain ⟨agrees, text, -⟩ := isQrCode_agrees read
  exact ⟨agrees trivial, text _ rfl (by decide)⟩

end Payload

end BoxProbe
