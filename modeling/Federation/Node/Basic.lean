/-
Federation/Node/Basic.lean

A federate with its links.

What the reactions of a federate send leaves over its links. What goes wrong
while its links are read is reported, and kept here in the order of the reports:
it is for others to decide how the federate ends.
-/
import Federation.Federate
import Federation.Link.Transport

namespace Federation

/-- A federate with its links. -/
structure Node (μ : Type) where
  federate : Federate μ
  transport : Transport
  /-- What went wrong while links were read. -/
  faults : List Fault := []

namespace Node

variable {μ : Type} (n : Node μ)

/-- Reports a fault. -/
def report (fault : Fault) : Node μ := { n with faults := n.faults ++ [fault] }

/-- Every outlet sends its value. -/
def sendAll : List (Except Fault SendOutcome) × Node μ :=
  let (results, transport) := n.federate.sendAll Transport.post n.transport
  (results, { n with transport })

/-- Every logical outlet announces its absence. -/
def announceAll : List (Except Fault Bool) × Node μ :=
  let (results, transport) := n.federate.announceAll Transport.post n.transport
  (results, { n with transport })

/-- Sends a frame. -/
def send (parcel : Parcel) : Except SendError Unit × Node μ :=
  let (result, transport) := Transport.post parcel n.transport
  (result, { n with transport })

/-- Takes in a frame. -/
def dispatch (source : Destination) (f : Frame) :
    Except Fault Dispatched × Node μ :=
  let (result, federate) := n.federate.dispatch source f
  (result, { n with federate })

/-- Delivers a message to the port of its action. -/
def deliver (m : ReceivedMessage) : Except Fault Unit × Node μ :=
  match n.federate.receive m with
  | (some result, federate) => (result, { n with federate })
  | (none, _) =>
    (.error (.protocol (Destination.federate n.federate.plan.federate).render
      ("no receiver for " ++ m.port.render)), n)

@[simp] theorem transport_dispatch (source : Destination) (f : Frame) :
    (n.dispatch source f).2.transport = n.transport := rfl

end Node

end Federation
