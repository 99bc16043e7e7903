/-
Federation/Assembly.lean

Federates that pass their frames to one another without connections.

Each member of an assembly records what it sends in an outbox. When the outbox
of a member flows, the frames that it has recorded since the last time are taken
in by those they are meant for: a direct one comes from the member, one by way
of the coordinator comes from the coordinator and goes to the federate that the
frame names.
-/
import Federation.Federate

namespace Federation

/-- A federate and what it has sent. -/
structure Member (μ : Type) where
  federate : Federate μ
  outbox : Outbox := {}
  /-- The number of parcels that have flowed. -/
  flowed : Nat := 0

/-- The members of a federation. -/
abbrev Assembly (μ : Type) := Std.ExtTreeMap FederateId (Member μ)

namespace Assembly

variable {μ : Type}

/-- Whom a parcel of a member comes from and goes to. -/
def addressing (sender : FederateId) (parcel : Parcel) :
    Destination × Option FederateId :=
  match parcel.destination with
  | .federate f => (.federate sender, some f)
  | .coordinator => (.coordinator, parcel.frame.addressee?)

/-- Passes a parcel on. There is no result if nobody is there to take it in. -/
def pass (sender : FederateId) (parcel : Parcel) (a : Assembly μ) :
    Option (Except Fault Dispatched) × Assembly μ :=
  let (source, receiver) := addressing sender parcel
  match receiver >>= fun f => a[f]? with
  | none => (none, a)
  | some m =>
    let (result, federate) := m.federate.dispatch source parcel.frame
    (some result, a.insert federate.plan.federate { m with federate })

/-- Passes on what a member has sent since the last time. -/
def flow (sender : FederateId) (a : Assembly μ) :
    List (Option (Except Fault Dispatched)) × Assembly μ :=
  match a[sender]? with
  | none => ([], a)
  | some m =>
    let parcels := m.outbox.parcels.drop m.flowed
    let m := { m with flowed := m.outbox.parcels.length }
    inTurn (pass sender) parcels (a.insert sender m)

end Assembly

end Federation
