/-
Module: BoxProbe.Protocol.Frame
Purpose: Frames as they arrive: their text, their payload, and what their type says.
Main exports: Frame, Frame.text, Payload.decode, Payload.typeTag, Payload.isQrCode, describeType,
  buildRequest
-/
import BoxProbe.Json.Reader
import BoxProbe.Protocol.Message
import BoxProbe.Text.Utf8

/-!
The probe does not need a whole message to know what a frame is: it looks at the raw `Type` of the
decoded payload.  A frame whose `Type` is a number equal to one, and no boolean, is a QR code.
-/

namespace BoxProbe

/-- A frame of the connection. -/
inductive Frame where
  | text (s : String)
  | binary (bytes : List UInt8)
deriving DecidableEq, Repr

namespace Frame

/-- The text of a frame; binary frames hold UTF-8. -/
def content : Frame → String
  | .text s => s
  | .binary bytes => Utf8.decode bytes

end Frame

namespace Payload

/-- Decodes the text of a frame. -/
def decode (raw : String) : Except Json.Fault Json :=
  Json.read raw.toList

/-- The raw type of a payload: the value under `Type` of an object, and null otherwise. -/
def typeTag : Json → Json
  | .obj fields => (Json.Fields.get? fields "Type").getD .null
  | _ => .null

/-- The raw text of a payload. -/
def textOf : Json → Json
  | .obj fields => (Json.Fields.get? fields "Text").getD .null
  | _ => .null

/-- Whether a raw type is a number equal to that of a QR code. -/
def isQrTag : Json → Bool
  | .int n => n == MessageType.qrCode.code
  | .double d => d == Double.ofInt MessageType.qrCode.code
  | _ => false

/-- Whether a payload is a QR code message. -/
def isQrCode (payload : Json) : Bool :=
  isQrTag (typeTag payload)

end Payload

namespace Message

/-- Decodes the text of a frame and reads it as a message. -/
def parse (raw : String) : Except Json.Fault (Option Message) :=
  (Payload.decode raw).map ofJson?

end Message

/-- The name of a raw type for people: that of the protocol, or the value itself. -/
def describeType (tag : Json) : Text :=
  let unknown : Text := ("Unknown(" : Text) ++ tag.shown ++ (")" : Text)
  match tag with
  | .int n =>
    match MessageType.ofCode? n with
    | some t => t.name
    | none => unknown
  | _ => unknown

/-- The words of a message about a frame that is no JSON. -/
def undecodableMessage (raw : String) (fault : Json.Fault) : String :=
  "Could not decode frame as JSON: " ++ fault.message raw.toList

/-- The JSON text of a request that holds only a type. -/
def buildRequest (type : Int) : String :=
  (Json.ofFields [("Type", .int type)]).render

/-- Why a value does not convert to the integer of a request. -/
inductive RequestFault where
  | notANumber
  | infinity
  | text (t : Text) (fault : IntFault)
  | otherValue (v : Json)

namespace RequestFault

/-- The words for a text that is no integer: the text in quotes, cut after 200 characters. -/
def malformedMessage (t : Text) : Text :=
  ("invalid literal for int() with base 10: " : Text) ++ t.quoted.take 200

/-- The name of the kind of a value, in messages for people. -/
def kindName : Json → String
  | .null => "NoneType"
  | .bool _ => "bool"
  | .int _ => "int"
  | .double _ => "float"
  | .str _ => "str"
  | .arr _ => "list"
  | .obj _ => "dict"

/-- The words for a fault. -/
def message : RequestFault → Text
  | .notANumber => "cannot convert float NaN to integer"
  | .infinity => "cannot convert float infinity to integer"
  | .text t .malformed => malformedMessage t
  | .text _ (.tooLong digits) => Numeral.tooManyDigits digits
  | .otherValue v =>
    ("int() argument must be a string, a bytes-like object or a real number, not '" : Text) ++
      Text.ofString (kindName v) ++ ("'" : Text)

end RequestFault

/-- The integer that a value stands for as the type of a request: a double loses its fraction, and a
text is read as a numeral. -/
def requestType (v : Json) : Except RequestFault Int :=
  match v with
  | .int n => .ok n
  | .bool b => .ok (if b then 1 else 0)
  | .double .nan => .error .notANumber
  | .double d =>
    match d.truncate? with
    | some n => .ok n
    | none => .error .infinity
  | .str t => t.readInt.mapError (.text t)
  | v => .error (.otherValue v)

end BoxProbe
