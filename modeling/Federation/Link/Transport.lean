/-
Federation/Link/Transport.lean

All links of a federate.

A federate has at most one link to the coordinator, one to each peer that it
opened itself, over which it sends, and one from each peer that was accepted,
from which it reads. A link that was opened again takes the place of the one
before; a peer that was accepted is not accepted again.

`Transport.post` is the way frames leave the federate.
-/
import Federation.Link.Endpoint
import Federation.Output

namespace Federation

/-- The links of a federate. -/
structure Transport where
  federate : FederateId
  coordinator : Option Endpoint := none
  outbound : Std.ExtTreeMap FederateId Endpoint := ∅
  inbound : Std.ExtTreeMap FederateId Endpoint := ∅
  /-- Whether the federate is about to end. -/
  shuttingDown : Bool := false

namespace Transport

variable (t : Transport)

/-- Whether the federate has a link to the peer. -/
def hasOutbound (peer : FederateId) : Bool := t.outbound.contains peer

/-- Whether the peer was accepted. -/
def hasInbound (peer : FederateId) : Bool := t.inbound.contains peer

/-- The number of peers that were accepted. -/
def inboundCount : Nat := t.inbound.size

/-- Registers the link to the coordinator. -/
def setCoordinator (e : Endpoint) : Transport := { t with coordinator := some e }

/-- Registers a link that was opened. -/
def addOutbound (peer : FederateId) (e : Endpoint) : Transport :=
  { t with outbound := t.outbound.insert peer e }

/-- Registers a peer that was accepted, unless it is registered already. The
result tells. -/
def addInbound (peer : FederateId) (e : Endpoint) : Bool × Transport :=
  if t.hasInbound peer then (false, t)
    else (true, { t with inbound := t.inbound.insert peer e })

/-- Sends a frame to the coordinator. -/
def sendToCoordinator (f : Frame) : Except SendError Unit × Transport :=
  match t.coordinator with
  | none => (.error (.notConnected .coordinator), t)
  | some e =>
    let (result, e) := e.send f
    (result, t.setCoordinator e)

/-- Sends a frame to a peer. -/
def sendToFederate (peer : FederateId) (f : Frame) :
    Except SendError Unit × Transport :=
  match t.outbound[peer]? with
  | none => (.error (.notConnected (.federate peer)), t)
  | some e =>
    let (result, e) := e.send f
    (result, t.addOutbound peer e)

/-- Sends a parcel over the link to its destination. -/
def post : Post Transport := fun parcel t =>
  match parcel.destination with
  | .coordinator => t.sendToCoordinator parcel.frame
  | .federate peer => t.sendToFederate peer parcel.frame

/-- Announces that the federate is about to end. -/
def beginShutdown : Transport := { t with shuttingDown := true }

/-- Closes every link. -/
def closeAll : Transport :=
  { t with
    coordinator := t.coordinator.map Endpoint.close
    outbound := t.outbound.map fun _ e => e.close
    inbound := t.inbound.map fun _ e => e.close }

/-- What is sent goes over the link, which is kept as the write left it. -/
theorem sendToCoordinator_of_some {e : Endpoint} (h : t.coordinator = some e)
    (f : Frame) :
    t.sendToCoordinator f = ((e.send f).1, t.setCoordinator (e.send f).2) := by
  rw [sendToCoordinator, h]

@[simp] theorem post_coordinator (f : Frame) :
    post ⟨.coordinator, f⟩ t = t.sendToCoordinator f := rfl

end Transport

end Federation
