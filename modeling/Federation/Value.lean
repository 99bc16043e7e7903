/-
Federation/Value.lean

Values and their types.

A value is what a port carries at a tag: a mere pulse, a block of bytes of a
fixed size, a text, a token (an array of equal elements at the front of a
buffer), or a ROS message. A value type is the static description of what a port
may carry.

A token keeps the whole buffer that it refers to, and the proof that the buffer
is long enough for its elements; two tokens are equal only if their buffers are.
-/
import Federation.Bytes.Concat
import Federation.Text.Quoted

namespace Federation

/-- What a port may carry. -/
inductive ValueType where
  | unit
  /-- A block of exactly `size` bytes. -/
  | fixed (size : Nat)
  | text
  /-- An array of elements of `elementSize` bytes each. -/
  | token (elementSize : Nat)
  /-- A ROS message, behind a shared handle or not. -/
  | ros2 (typeName : String) (shared : Bool)
deriving DecidableEq

namespace ValueType

/-- Whether values of the type are tokens. -/
def isToken : ValueType → Bool
  | token _ => true
  | _ => false

/-- Whether values of the type are ROS messages. -/
def isRos2 : ValueType → Bool
  | ros2 _ _ => true
  | _ => false

/-- A value type as diagnostics show it. -/
def render : ValueType → String
  | unit => "Unit"
  | fixed size => "Fixed \x7b size: " ++ toString size ++ " \x7d"
  | text => "Text"
  | token elementSize =>
    "Token \x7b element_size: " ++ toString elementSize ++ " \x7d"
  | ros2 typeName shared =>
    "Ros2 \x7b type_name: " ++ Quoted.encode typeName ++ ", shared: " ++
      toString shared ++ " \x7d"

end ValueType

/-- The elements at the front of a buffer. -/
@[ext] structure Token where
  buffer : ByteArray
  elementSize : Nat
  /-- The number of elements. -/
  length : Nat
  fits : length * elementSize ≤ buffer.size
deriving DecidableEq

namespace Token

/-- The token of the first `length` elements of `buffer`, if the buffer is long
enough. -/
def ofBuffer? (buffer : ByteArray) (elementSize length : Nat) : Option Token :=
  if fits : length * elementSize ≤ buffer.size then
    some ⟨buffer, elementSize, length, fits⟩
  else none

/-- Whether the token has no elements. -/
def isEmpty (t : Token) : Bool := t.length == 0

/-- The bytes of the elements. -/
def bytes (t : Token) : ByteArray := t.buffer.extract 0 (t.length * t.elementSize)

/-- Elements that fill a buffer are all of it. -/
theorem bytes_of_dvd {buffer : ByteArray} {elementSize : Nat}
    (h : elementSize ∣ buffer.size) :
    (⟨buffer, elementSize, buffer.size / elementSize, Nat.div_mul_le_self _ _⟩ :
      Token).bytes = buffer := by
  rw [bytes, Nat.div_mul_cancel h, ByteArray.extract_zero_size]

end Token

/-- A ROS message and whether it is behind a shared handle. -/
@[ext] structure RosMessage (μ : Type) where
  content : μ
  shared : Bool := false
deriving DecidableEq

/-- What a port carries at a tag. -/
inductive PortValue (μ : Type) where
  | unit
  | fixed (bytes : ByteArray)
  | text (s : String)
  | token (t : Token)
  | message (m : RosMessage μ)
deriving DecidableEq

/-- The name of the kind of a value. -/
def PortValue.kindName {μ : Type} : PortValue μ → String
  | unit => "unit"
  | fixed _ => "fixed"
  | text _ => "text"
  | token _ => "token"
  | message _ => "ros2"

end Federation
