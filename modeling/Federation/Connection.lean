/-
Federation/Connection.lean

Connections between federates.

A connection leads from a port of one federate to a port of another. A logical
connection carries tags: what leaves at a tag arrives at the tag that the
declared delay gives. A physical connection carries values without tags, and so
cannot declare a delay.

`Connection.validate` refuses the connections that no federation should declare:
one that stays within a federate, a delay that points backwards or stands on a
physical connection, and a serializer that cannot carry the type of the port.
`Connection.route` is the way its messages go.
-/
import Federation.Time.Tag
import Federation.Identifier
import Federation.Value

namespace Federation

/-- The encoding that a connection uses for its values. -/
inductive Serializer where
  /-- The bytes of the value as they stand in memory. -/
  | native
  /-- Protocol buffers, which no port can use yet. -/
  | proto
  /-- The serialization of ROS messages. -/
  | ros2
deriving DecidableEq

/-- The name of a serializer. -/
def Serializer.render : Serializer → String
  | native => "native"
  | proto => "proto"
  | ros2 => "ros2"

/-- How a federation keeps its federates consistent. -/
inductive Coordination where
  /-- The coordinator grants every advance of logical time. -/
  | centralized
  /-- Federates advance on their own, bounded by delays and safe-to-process
  offsets. -/
  | decentralized
deriving DecidableEq

/-- A coordination as diagnostics show it. -/
def Coordination.render : Coordination → String
  | centralized => "Centralized"
  | decentralized => "Decentralized"

/-- The way of a message. -/
inductive Route where
  /-- Without a tag, straight to the peer. -/
  | untimedDirect
  /-- With its tag, straight to the peer. -/
  | taggedDirect
  /-- With its tag, relayed by the coordinator. -/
  | taggedViaCoordinator
deriving DecidableEq

namespace Route

/-- Whether the message goes straight to the peer. -/
def isDirect : Route → Bool
  | taggedViaCoordinator => false
  | _ => true

/-- Whether the message carries a tag. -/
def isTagged : Route → Bool
  | untimedDirect => false
  | _ => true

end Route

/-- One side of a connection: a port of a federate. -/
@[ext] structure Terminal where
  federate : FederateId
  port : Port
deriving DecidableEq

/-- A terminal prints as the number of its federate and its port. -/
def Terminal.render (t : Terminal) : String :=
  toString t.federate.number ++ ":" ++ t.port.render

/-- A link from a port of one federate to a port of another. -/
@[ext] structure Connection where
  source : Terminal
  destination : Terminal
  /-- Whether the connection is physical: its messages carry no tag. -/
  physical : Bool := false
  delay : Delay := none
  serializer : Serializer := .native
  valueType : ValueType
deriving DecidableEq

/-- Why a connection is refused. Each carries the printed connection. -/
inductive ConnectionError where
  /-- The serializer is not supported. -/
  | unsupportedSerializer (connection : String)
  /-- A token cannot be a ROS message. -/
  | ros2TokenPort (connection : String)
  /-- The ROS serializer carries ROS types only. -/
  | ros2ValueType (connection : String)
  /-- A ROS type needs the ROS serializer. -/
  | nativeRosType (connection : String)
  /-- The delay points backwards. -/
  | negativeDelay (connection : String)
  /-- A physical connection declares a delay. -/
  | physicalWithDelay (connection : String)
  /-- Both terminals belong to one federate. -/
  | sameFederate (connection : String)
deriving DecidableEq

/-- The text of a refusal. -/
def ConnectionError.message : ConnectionError → String
  | unsupportedSerializer c =>
    "protobuf serialization is not supported yet (" ++ c ++ ")"
  | ros2TokenPort c =>
    "cannot handle ROS serialization when ports are pointers (" ++ c ++ ")"
  | ros2ValueType c => "ROS 2 serializer requires a ROS 2 value type (" ++ c ++ ")"
  | nativeRosType c =>
    "ROS 2 value type requires the ROS 2 serializer (" ++ c ++ ")"
  | negativeDelay c => "negative delay on " ++ c
  | physicalWithDelay c => "physical connection " ++ c ++ " cannot declare a delay"
  | sameFederate c => "connection " ++ c ++ " does not cross federates"

namespace Connection

/-- Whether messages on the connection carry tags. -/
def isLogical (c : Connection) : Bool := !c.physical

/-- A connection is logical or physical, and never both. -/
@[simp] theorem isLogical_iff {c : Connection} :
    c.isLogical = true ↔ c.physical = false := by
  simp [isLogical]

@[simp] theorem isLogical_eq_false_iff {c : Connection} :
    c.isLogical = false ↔ c.physical = true := by
  simp [isLogical]

/-- A connection prints as its terminals, with a straight arrow if it is logical
and a wavy one if it is physical. -/
def render (c : Connection) : String :=
  c.source.render ++ (if c.physical then " ~> " else " -> ") ++ c.destination.render

/-- The way that messages on the connection go. -/
def route (c : Connection) (coordination : Coordination) : Route :=
  if c.physical then .untimedDirect
  else match coordination with
    | .decentralized => .taggedDirect
    | .centralized => .taggedViaCoordinator

/-- Refuses a serializer that cannot carry the type of the port. -/
def validateEncoding (c : Connection) : Except ConnectionError Unit :=
  match c.serializer, c.valueType with
  | .proto, _ => .error (.unsupportedSerializer c.render)
  | .ros2, .token _ => .error (.ros2TokenPort c.render)
  | .ros2, .ros2 _ _ => .ok ()
  | .ros2, _ => .error (.ros2ValueType c.render)
  | .native, .ros2 _ _ => .error (.nativeRosType c.render)
  | .native, _ => .ok ()

/-- Refuses a delay that points backwards or stands on a physical connection. -/
def validateDelay (c : Connection) : Except ConnectionError Unit :=
  match c.delay with
  | none => .ok ()
  | some delay =>
    if delay.isNegative then .error (.negativeDelay c.render)
    else if c.physical then .error (.physicalWithDelay c.render)
    else .ok ()

/-- Refuses a connection that no federation should declare. -/
def validate (c : Connection) : Except ConnectionError Unit := do
  if c.source.federate = c.destination.federate then .error (.sameFederate c.render)
  c.validateDelay
  c.validateEncoding

end Connection

end Federation
