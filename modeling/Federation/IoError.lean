/-
Federation/IoError.lean

Failures of input and output.

A failure has a kind, on which the program decides, and a text, which it only
passes on. A failure of which nothing but the kind is known has the usual text
of that kind.

`IoErrorKind.isDisconnect` marks the kinds that mean that the other side went away.
-/

namespace Federation

/-- The kinds of failure of input and output. -/
inductive IoErrorKind where
  | connectionRefused
  | connectionReset
  | connectionAborted
  | notConnected
  | networkUnreachable
  | brokenPipe
  | unexpectedEnd
  | timedOut
  | wouldBlock
  | interrupted
  | invalidData
  | notFound
  | addressInUse
  | addressNotAvailable
  | writeZero
  | outOfMemory
  | other
deriving DecidableEq

namespace IoErrorKind

/-- The usual text of a kind of failure. -/
def text : IoErrorKind → String
  | connectionRefused => "connection refused"
  | connectionReset => "connection reset"
  | connectionAborted => "connection aborted"
  | notConnected => "not connected"
  | networkUnreachable => "network unreachable"
  | brokenPipe => "broken pipe"
  | unexpectedEnd => "unexpected end of file"
  | timedOut => "timed out"
  | wouldBlock => "operation would block"
  | interrupted => "operation interrupted"
  | invalidData => "invalid data"
  | notFound => "entity not found"
  | addressInUse => "address in use"
  | addressNotAvailable => "address not available"
  | writeZero => "write zero"
  | outOfMemory => "out of memory"
  | other => "other error"

/-- Whether a failure of this kind means that the other side went away. -/
def isDisconnect : IoErrorKind → Bool
  | unexpectedEnd | connectionReset | connectionAborted | brokenPipe
      | notConnected =>
    true
  | _ => false

end IoErrorKind

/-- A failure of input or output. -/
structure IoError where
  kind : IoErrorKind
  /-- What the failure prints as. -/
  text : String := kind.text
deriving DecidableEq

namespace IoError

/-- A read that found fewer bytes than it needs before the end of the input. -/
def endOfInput : IoError := ⟨.unexpectedEnd, "failed to fill whole buffer"⟩

/-- A write that found less room than it needs. -/
def outOfRoom : IoError := ⟨.writeZero, "failed to write whole buffer"⟩

/-- A read that waited longer than it may. -/
def readTimeout : IoError :=
  ⟨.wouldBlock, "Resource temporarily unavailable (os error 11)"⟩

/-- A read on a connection over which no more has come so far. -/
def starved : IoError := ⟨.wouldBlock, "no input so far"⟩

/-- A connection that nobody accepts. -/
def refused : IoError := ⟨.connectionRefused, "Connection refused (os error 111)"⟩

/-- A host to which no way leads. -/
def noRoute : IoError :=
  ⟨.networkUnreachable, "Network is unreachable (os error 101)"⟩

/-- An address that another socket is bound to. -/
def inUse : IoError := ⟨.addressInUse, "Address already in use (os error 98)"⟩

end IoError

end Federation
