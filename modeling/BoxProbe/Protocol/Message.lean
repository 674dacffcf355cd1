/-
Module: BoxProbe.Protocol.Message
Purpose: The messages of the frontend protocol, read leniently and written in full.
Main exports: LoadLimit, Entity, Message, Message.ofJson?, Message.toJson, Message.wire,
  Message.isWritable
-/
import BoxProbe.Json.Printer
import BoxProbe.Protocol.Lenient
import BoxProbe.Protocol.MessageType

/-!
A message is one flat object.  Only its type is required; every other field has a value that stands
for "does not apply".  Written messages hold all fields, in a fixed order.
-/

namespace BoxProbe

open Lenient (FieldName)

/-- A limit on consumption or production. -/
structure LoadLimit where
  /-- The duration in seconds. -/
  duration : Int := 0
  isChangeable : Bool := false
  isActive : Bool := false
  /-- The limit in watts. -/
  value : Double := Double.signedZero false
deriving DecidableEq, Repr

/-- A remote entity that the control box knows. -/
structure Entity where
  /-- The address of the entity. -/
  name : Text := []
  /-- The identifier of the device's key. -/
  ski : Text := []
  useCases : List Text := []
deriving DecidableEq, Repr

/-- One frame of the protocol. -/
structure Message where
  type : Int
  text : Text := []
  limit : LoadLimit := {}
  value : Double := Double.signedZero false
  entities : Option (List Entity) := none
  useCase : Text := []
deriving DecidableEq, Repr

/-- Which of the two names of its fields a written object uses. -/
inductive NameStyle where
  | wire
  | plain
deriving DecidableEq, Repr

/-- A field name in a style, as a key. -/
def Lenient.FieldName.key (name : FieldName) : NameStyle → Text
  | .wire => Text.ofString name.wire
  | .plain => Text.ofString name.plain

namespace LoadLimit

def durationName : FieldName := ⟨"Duration", "duration"⟩
def isChangeableName : FieldName := ⟨"IsChangeable", "is_changeable"⟩
def isActiveName : FieldName := ⟨"IsActive", "is_active"⟩
def valueName : FieldName := ⟨"Value", "value"⟩

/-- Reads a limit from the fields of an object. -/
def ofFields? (fields : Json.Fields) : Option LoadLimit := do
  let duration ← Lenient.field? durationName 0 Lenient.int? fields
  let isChangeable ← Lenient.field? isChangeableName false Lenient.bool? fields
  let isActive ← Lenient.field? isActiveName false Lenient.bool? fields
  let value ← Lenient.field? valueName (Double.signedZero false) Lenient.double? fields
  some { duration, isChangeable, isActive, value }

/-- Reads a limit from an object. -/
def ofJson? : Json → Option LoadLimit
  | .obj fields => ofFields? fields
  | _ => none

/-- Writes a limit in full. -/
def toJson (style : NameStyle) (l : LoadLimit) : Json :=
  .obj [
    (durationName.key style, .int l.duration),
    (isChangeableName.key style, .bool l.isChangeable),
    (isActiveName.key style, .bool l.isActive),
    (valueName.key style, .double l.value)]

end LoadLimit

namespace Entity

def nameName : FieldName := ⟨"Name", "name"⟩
def skiName : FieldName := ⟨"SKI", "ski"⟩
def useCasesName : FieldName := ⟨"UseCases", "use_cases"⟩

/-- Reads an entity from the fields of an object. -/
def ofFields? (fields : Json.Fields) : Option Entity := do
  let name ← Lenient.field? nameName [] Lenient.text? fields
  let ski ← Lenient.field? skiName [] Lenient.text? fields
  let useCases ← Lenient.field? useCasesName [] (Lenient.list? Lenient.text?) fields
  some { name, ski, useCases }

/-- Reads an entity from an object. -/
def ofJson? : Json → Option Entity
  | .obj fields => ofFields? fields
  | _ => none

/-- Writes an entity in full. -/
def toJson (style : NameStyle) (e : Entity) : Json :=
  .obj [
    (nameName.key style, .str e.name),
    (skiName.key style, .str e.ski),
    (useCasesName.key style, .arr (e.useCases.map .str))]

end Entity

namespace Message

def typeName : FieldName := ⟨"Type", "type"⟩
def textName : FieldName := ⟨"Text", "text"⟩
def limitName : FieldName := ⟨"Limit", "limit"⟩
def valueName : FieldName := ⟨"Value", "value"⟩
def entitiesName : FieldName := ⟨"EntityList", "entity_list"⟩
def useCaseName : FieldName := ⟨"UseCase", "use_case"⟩

/-- Reads a list of entities, or null for none. -/
def entities? : Json → Option (Option (List Entity))
  | .null => some none
  | v => (Lenient.list? Entity.ofJson? v).map some

/-- Reads a message from the fields of an object. -/
def ofFields? (fields : Json.Fields) : Option Message := do
  let type ← Lenient.required? typeName Lenient.int? fields
  let text ← Lenient.field? textName [] Lenient.text? fields
  let limit ← Lenient.field? limitName {} LoadLimit.ofJson? fields
  let value ← Lenient.field? valueName (Double.signedZero false) Lenient.double? fields
  let entities ← Lenient.field? entitiesName none entities? fields
  let useCase ← Lenient.field? useCaseName [] Lenient.text? fields
  some { type, text, limit, value, entities, useCase }

/-- Reads a message from a decoded payload; anything but an object with fields that fit is none. -/
def ofJson? : Json → Option Message
  | .obj fields => ofFields? fields
  | _ => none

/-- Writes a message in full. -/
def toJson (style : NameStyle) (m : Message) : Json :=
  .obj [
    (typeName.key style, .int m.type),
    (textName.key style, .str m.text),
    (limitName.key style, m.limit.toJson style),
    (valueName.key style, .double m.value),
    (entitiesName.key style,
      match m.entities with
      | none => .null
      | some entities => .arr (entities.map (Entity.toJson style))),
    (useCaseName.key style, .str m.useCase)]

/-- The JSON text of a message on the wire. -/
def wire (m : Message) : String :=
  (m.toJson .wire).render

/-- Whether the integers of a message are short enough to be written. -/
def isWritable (m : Message) : Bool :=
  Numeral.isWritable m.type && Numeral.isWritable m.limit.duration

/-- The meaning of a message, if its type is one of the protocol. -/
def messageType? (m : Message) : Option MessageType :=
  MessageType.ofCode? m.type

/-- A message of a known type, with the other fields as given. -/
def ofType (type : MessageType) : Message :=
  { type := type.code }

end Message

end BoxProbe
