/-
Federation/Payload.lean

Port values as payloads.

The native serializer writes a value by the type of its port: a pulse as
nothing, a block of bytes as it stands, a text with one null byte behind it, a
token as the bytes of its elements. It refuses a value of another kind or size,
and it reads back exactly what it writes. The payload of a token holds as many
elements as fit in it, so its size must be a multiple of the size of an element;
for elements without size that leaves the empty payload.

ROS messages go through a serializer that is given from outside; protocol
buffers are not supported.
-/
import Federation.Connection

namespace Federation

variable {μ : Type}

/-- Why a value has no payload, or a payload no value. -/
inductive PayloadError where
  /-- The serializer is not supported. -/
  | unsupported (serializer : Serializer)
  /-- A token cannot be a ROS message. -/
  | ros2Token
  /-- There is no serializer for ROS messages. -/
  | missingRos2Serializer
  /-- The value is of another kind than the port. -/
  | typeMismatch (expected : ValueType) (actual : String)
  /-- The value has another size than the port. -/
  | lengthMismatch (expected actual : Nat)
  /-- A text without the null byte behind it. -/
  | missingTerminator
  /-- A text that is no UTF-8. -/
  | invalidText
  /-- The serializer for ROS messages failed. -/
  | ros2 (detail : String)
deriving DecidableEq

/-- The text of the failure. -/
def PayloadError.message : PayloadError → String
  | unsupported serializer =>
    serializer.render ++ " serialization is not supported yet"
  | ros2Token => "Cannot handle ROS serialization when ports are pointers"
  | missingRos2Serializer => "No ROS 2 serializer registered"
  | typeMismatch expected actual =>
    "Value of kind " ++ actual ++ " does not match port type " ++ expected.render
  | lengthMismatch expected actual =>
    "Expected " ++ toString expected ++ " bytes, got " ++ toString actual
  | missingTerminator => "String payload is missing its terminator"
  | invalidText => "String payload is not valid UTF-8"
  | ros2 detail => "ROS 2 serializer error: " ++ detail

/-- A serializer for ROS messages. Both directions are given the name of the
message type. -/
structure Ros2Serializer (μ : Type) where
  serialize : String → μ → Except PayloadError ByteArray
  deserialize : String → ByteArray → Except PayloadError μ

/-- The serializer that knows text messages only and writes them as UTF-8. -/
def Ros2Serializer.plainText : Ros2Serializer (String ⊕ μ) where
  serialize typeName
    | .inl s => .ok s.toByteArray
    | .inr _ => .error (.ros2 ("not a string: " ++ typeName))
  deserialize typeName bytes :=
    match String.fromUTF8? bytes with
    | some s => .ok (.inl s)
    | none => .error (.ros2 ("not UTF-8: " ++ typeName))

namespace Payload

/-- The payload of a value under the native serializer. -/
def encodeNative : ValueType → PortValue μ → Except PayloadError ByteArray
  | .unit, .unit => .ok .empty
  | .fixed size, .fixed bytes =>
    if bytes.size = size then .ok bytes
      else .error (.lengthMismatch size bytes.size)
  | .text, .text s => .ok (s.toByteArray.push 0)
  | .token elementSize, .token t =>
    if t.elementSize = elementSize then .ok t.bytes
    else .error (.lengthMismatch elementSize t.elementSize)
  | expected, actual => .error (.typeMismatch expected actual.kindName)

/-- The text of a payload that ends in a null byte. -/
def decodeText (payload : ByteArray) : Except PayloadError (PortValue μ) :=
  if payload.data.back? = some 0 then
    match String.fromUTF8? (payload.extract 0 (payload.size - 1)) with
    | some s => .ok (.text s)
    | none => .error .invalidText
  else .error .missingTerminator

/-- The number of elements in a payload, which they fill. Elements without size
fill the empty one only. -/
def elementCount (elementSize : Nat) (payload : ByteArray) :
    Except PayloadError Nat :=
  if elementSize = 0 then
    if payload.size = 0 then .ok 0 else .error (.lengthMismatch 0 payload.size)
  else if payload.size % elementSize = 0 then .ok (payload.size / elementSize)
  else .error
    (.lengthMismatch (payload.size - payload.size % elementSize) payload.size)

/-- The token of a payload: all its elements, if there is room for them. -/
def decodeToken (elementSize : Nat) (payload : ByteArray) :
    Except PayloadError (PortValue μ) := do
  let length ← elementCount elementSize payload
  match Token.ofBuffer? payload elementSize length with
  | some t => return .token t
  | none => throw (.lengthMismatch (elementSize * length) 0)

/-- The value of a payload under the native serializer. -/
def decodeNative (type : ValueType) (payload : ByteArray) :
    Except PayloadError (PortValue μ) :=
  match type with
  | .unit =>
    if payload.size = 0 then .ok .unit else .error (.lengthMismatch 0 payload.size)
  | .fixed size =>
    if payload.size = size then .ok (.fixed payload)
    else .error (.lengthMismatch size payload.size)
  | .text => decodeText payload
  | .token elementSize => decodeToken elementSize payload
  | .ros2 _ _ => .error (.typeMismatch type "native")

end Payload

/-- How a federate writes and reads payloads: with or without a serializer for
ROS messages. -/
structure PayloadCodec (μ : Type) where
  ros2 : Option (Ros2Serializer μ) := none

namespace PayloadCodec

/-- The serializer for ROS messages, which must be there. -/
def requireRos2 (codec : PayloadCodec μ) : Except PayloadError (Ros2Serializer μ) :=
  match codec.ros2 with
  | some serializer => .ok serializer
  | none => .error .missingRos2Serializer

/-- The payload of a ROS message. -/
def encodeRos2 (codec : PayloadCodec μ) (type : ValueType) (value : PortValue μ) :
    Except PayloadError ByteArray :=
  match type, value with
  | .ros2 typeName _, .message m =>
    do (← codec.requireRos2).serialize typeName m.content
  | .token _, _ => .error .ros2Token
  | expected, actual => .error (.typeMismatch expected actual.kindName)

/-- The ROS message of a payload, behind a shared handle if the type says so. -/
def decodeRos2 (codec : PayloadCodec μ) (type : ValueType) (payload : ByteArray) :
    Except PayloadError (PortValue μ) :=
  match type with
  | .ros2 typeName shared => do
    return .message ⟨← (← codec.requireRos2).deserialize typeName payload, shared⟩
  | .token _ => .error .ros2Token
  | _ => .error (.typeMismatch type "ros2")

/-- The payload of a value. -/
def encode (codec : PayloadCodec μ) (serializer : Serializer) (type : ValueType)
    (value : PortValue μ) : Except PayloadError ByteArray :=
  match serializer with
  | .native => Payload.encodeNative type value
  | .proto => .error (.unsupported .proto)
  | .ros2 => codec.encodeRos2 type value

/-- The value of a payload. -/
def decode (codec : PayloadCodec μ) (serializer : Serializer) (type : ValueType)
    (payload : ByteArray) : Except PayloadError (PortValue μ) :=
  match serializer with
  | .native => Payload.decodeNative type payload
  | .proto => .error (.unsupported .proto)
  | .ros2 => codec.decodeRos2 type payload

/-- A codec as diagnostics show it. -/
def render (codec : PayloadCodec μ) : String :=
  "PayloadCodec \x7b ros2: " ++ toString codec.ros2.isSome ++ " \x7d"

end PayloadCodec

end Federation
