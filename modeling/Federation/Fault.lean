/-
Federation/Fault.lean

What can go wrong in a federate.

A `SendError` says why a frame did not leave. A `Fault` is a failure of the
federate as a whole; it has a category, and all faults end the federate but one:
a message on a physical connection may be lost (`Fault.isFatal`).
-/
import Federation.Frame.Basic
import Federation.Payload

namespace Federation

/-- Where a frame goes. -/
inductive Destination where
  | coordinator
  | federate (f : FederateId)
deriving DecidableEq

/-- A destination as messages name it. -/
def Destination.render : Destination → String
  | coordinator => "coordinator"
  | federate f => "federate " ++ toString f.number

/-- Why a frame did not leave. -/
inductive SendError where
  | notConnected (destination : Destination)
  | closed (destination : Destination)
  | io (destination : Destination) (source : IoError)
  | encode (destination : Destination) (source : FrameError)
deriving DecidableEq

/-- The text of the failure. -/
def SendError.message : SendError → String
  | notConnected d => "no connection to " ++ d.render
  | closed d => "connection to " ++ d.render ++ " is closed"
  | io d source => "failed to write to " ++ d.render ++ ": " ++ source.text
  | encode d source =>
    "cannot encode frame for " ++ d.render ++ ": " ++ source.message

/-- The broad classes of faults. -/
inductive FaultCategory where
  /-- The coordinator or a peer cannot be reached or went away. -/
  | connectivity
  /-- What was received or is to be sent does not keep to the protocol. -/
  | protocol
  /-- A message was not delivered. -/
  | send
  /-- Time left its range. -/
  | time
  /-- The settings are wrong. -/
  | configuration
  /-- The operating system failed. -/
  | io
deriving DecidableEq

/-- The name of a category. -/
def FaultCategory.name : FaultCategory → String
  | connectivity => "Connectivity"
  | protocol => "Protocol"
  | send => "Send"
  | time => "Time"
  | configuration => "Configuration"
  | io => "Io"

/-- A failure of a federate. -/
inductive Fault where
  | unreachable (what : String) (attempts : Nat) (source : IoError)
  | rejected (what : String) (reason : RejectReason)
  | connectionLost (what detail : String)
  | protocol (peer detail : String)
  | frame (peer : String) (source : FrameError)
  | payload (connection : String) (source : PayloadError)
  | connection (source : ConnectionError)
  | time (source : TimeError)
  | send (connection : String) (physical : Bool) (source : SendError)
  | config (detail : String)
  | io (what : String) (source : IoError)
deriving DecidableEq

namespace Fault

/-- The text of a fault. -/
def message : Fault → String
  | unreachable what attempts source =>
    what ++ " unreachable after " ++ toString attempts ++ " attempts: " ++
      source.text
  | rejected what reason => what ++ " rejected the connection: " ++ reason.name
  | connectionLost what detail => "lost connection to " ++ what ++ ": " ++ detail
  | protocol peer detail => "protocol error with " ++ peer ++ ": " ++ detail
  | frame peer source => "malformed frame from " ++ peer ++ ": " ++ source.message
  | payload c source => "codec error on " ++ c ++ ": " ++ source.message
  | connection source => "invalid connection: " ++ source.message
  | time source => "time error: " ++ source.message
  | send c _ source => "send failed on " ++ c ++ ": " ++ source.message
  | config detail => "configuration error: " ++ detail
  | io what source => what ++ ": " ++ source.text

/-- The category of a fault. -/
def category : Fault → FaultCategory
  | unreachable .. | rejected .. | connectionLost .. => .connectivity
  | protocol .. | frame .. | payload .. | connection _ => .protocol
  | send .. => .send
  | time _ => .time
  | config _ => .configuration
  | io .. => .io

/-- Whether the federate must end: always, but for a message lost on a physical
connection. -/
def isFatal : Fault → Bool
  | send _ true _ => false
  | _ => true

/-- The fault of a read from `peer`: a lost connection if the other side went
away, and a malformed frame otherwise. -/
def ofRead (peer : String) (e : FrameError) : Fault :=
  if e.isDisconnect then .connectionLost peer e.message else .frame peer e

/-- Whether the fault is that of a read that came too early. -/
def isStarved : Fault → Bool
  | frame _ (.io e) => e = .starved
  | _ => false

/-- The fault of a write to `peer`: a lost connection if the output failed, and
a malformed frame if there is no encoding. -/
def ofWrite (peer : String) : FrameError → Fault
  | .io e => .connectionLost peer e.text
  | e => .frame peer e

end Fault

end Federation
