/-
Federation/Frame/Error.lean

Why a frame cannot be read or written.

Input and output may fail, and a frame may be one that no federate accepts: of
an unknown type, with a payload or a list of neighbours beyond the limits, or
with a federation id that is not text. A failure for which `isDisconnect` holds
means that the other side went away; any other means that it does not keep to
the protocol.
-/
import Federation.IoError

namespace Federation

/-- Why a frame cannot be read or written. -/
inductive FrameError where
  | io (error : IoError)
  /-- No frame has this type byte. -/
  | unknownType (code : UInt8)
  /-- The payload has more bytes than a frame may carry. -/
  | tooLarge (size : Nat)
  /-- The federation id is not text. -/
  | invalidFederationId
  /-- A list of neighbours has more entries than a frame may carry, or fewer
  than none. -/
  | tooManyNeighbors (count : Nat)
deriving DecidableEq

namespace FrameError

/-- The text of the failure. -/
def message : FrameError → String
  | io error => "I/O error: " ++ error.text
  | unknownType code => "Unknown message type: " ++ toString code
  | tooLarge size =>
    "Payload of " ++ toString size ++ " bytes exceeds the frame limit"
  | invalidFederationId => "Federation id is not valid UTF-8"
  | tooManyNeighbors count =>
    "Neighbor list of " ++ toString count ++ " entries does not fit the frame"

/-- Whether the failure means that the other side went away. -/
def isDisconnect : FrameError → Bool
  | io error => error.kind.isDisconnect
  | _ => false

end FrameError

end Federation
