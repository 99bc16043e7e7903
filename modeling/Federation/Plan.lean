/-
Federation/Plan.lean

The plan of a federate.

Every federate derives its part of the federation from the one list of all
connections. The list is numbered first (`number`): a connection gets as its
port id the count of connections before it that lead to the same federate. The
numbering does not depend on the federate that asks, so a sender and a receiver
agree on it without a word, and it fails for all federates or for none: at the
first connection that is refused, or that is one too many for its destination.

The outlets of a federate are the numbered connections that leave it, its inlets
those that lead to it. All else follows from these two lists: which connections
need a notice of absence and which an awaited status (the logical ones), whom
the federate is linked to directly, and who its logical neighbours are.
-/
import Federation.Connection
import Federation.Frame.Basic

namespace Federation

/-- A connection and the port id that its messages are addressed with. -/
@[ext] structure Outlet where
  connection : Connection
  port : PortId
deriving DecidableEq

/-- A connection that leads here, its action, and the longest safe-to-process
offset behind it. -/
@[ext] structure Inlet extends Outlet where
  maxStp : Interval
deriving DecidableEq

/-- Why there is no plan. -/
inductive PlanError where
  /-- A connection is refused. -/
  | connection (connection : String) (source : ConnectionError)
  /-- More connections lead to a federate than there are port ids. -/
  | tooManyActions (federate : FederateId)
deriving DecidableEq

/-- The text of the failure. -/
def PlanError.message : PlanError → String
  | connection c source => "invalid connection " ++ c ++ ": " ++ source.message
  | tooManyActions federate =>
    federate.render ++ " has more network inputs than fit a port id"

/-- The federates that a federate is linked to directly. -/
@[ext] structure Topology where
  /-- The federates that open a link to this one. -/
  inbound : Std.ExtTreeSet FederateId
  /-- The federates that this one opens a link to. -/
  outbound : Std.ExtTreeSet FederateId

/-- The longest safe-to-process offset behind each port, nought where the table
has none. -/
def stpOfTable (table : List (Port × Interval)) (port : Port) : Interval :=
  (Std.ExtTreeMap.ofList table).getD port .zero

/-- The lesser of two delays; a missing one is less than any. -/
def Delay.least : Delay → Delay → Delay
  | some a, some b => some (if a ≤ b then a else b)
  | _, _ => none

/-- What a federate sends and receives. -/
@[ext] structure Plan where
  federate : FederateId
  coordination : Coordination
  outlets : List Outlet
  inlets : List Inlet

namespace Plan

/-- The number of actions that a federate may have: one for each port id. -/
def maxActions : Nat := 65536

/-! ### Building a plan -/

/-- The state of the numbering: how many connections lead to each federate so
far, and the numbered connections, the last one first. -/
structure Numbering where
  counts : Std.ExtTreeMap FederateId Nat := ∅
  reversed : List Outlet := []

/-- Numbers one more connection. -/
def Numbering.add (n : Numbering) (c : Connection) : Except PlanError Numbering :=
  match c.validate with
  | .error e => .error (.connection c.render e)
  | .ok () =>
    let destination := c.destination.federate
    let count := n.counts.getD destination 0
    if count < maxActions then
      .ok ⟨n.counts.insert destination (count + 1),
        ⟨c, ⟨UInt16.ofNat count⟩⟩ :: n.reversed⟩
    else .error (.tooManyActions destination)

/-- Numbers the connections of a federation. -/
def number (connections : List Connection) : Except PlanError (List Outlet) :=
  (connections.foldlM Numbering.add {}).map fun n => n.reversed.reverse

/-- The offset that an awaited inlet waits for beyond the federate's own: it
counts where federates advance on their own. -/
def maxStp (coordination : Coordination) (stp : Port → Interval) (port : Port) :
    Interval :=
  match coordination with
  | .decentralized => stp port
  | .centralized => .zero

/-- The plan of `federate` in the federation of the given connections. The
offsets `stp` are those of the reactions behind each port. -/
def build (federate : FederateId) (connections : List Connection)
    (coordination : Coordination) (stp : Port → Interval) :
    Except PlanError Plan :=
  (number connections).map fun numbered =>
    { federate, coordination
      outlets := numbered.filter (·.connection.source.federate = federate)
      inlets :=
        (numbered.filter (·.connection.destination.federate = federate)).map
        fun o =>
        ⟨o, maxStp coordination stp o.connection.destination.port⟩ }

variable (plan : Plan)

/-! ### What a plan says -/

/-- The outlets whose absence is announced: the logical ones. -/
def announced : List Outlet := plan.outlets.filter (·.connection.isLogical)

/-- The inlets whose status is awaited: the logical ones. -/
def awaited : List Inlet := plan.inlets.filter (·.connection.isLogical)

/-- The inlet with the given action. -/
def inlet? (action : PortId) : Option Inlet := plan.inlets[action.ordinal]?

/-- Whether messages on the connection go straight to the peer. -/
def isDirect (c : Connection) : Bool := (c.route plan.coordination).isDirect

/-- The direct links of the federate. -/
def topology : Topology where
  inbound := .ofList <| (plan.inlets.filter (plan.isDirect ·.connection)).map
    (·.connection.source.federate)
  outbound := .ofList <| (plan.outlets.filter (plan.isDirect ·.connection)).map
    (·.connection.destination.federate)

/-- Takes a delay from a federate into the least delays. -/
def leastDelay (delays : Std.ExtTreeMap FederateId Delay) (i : Inlet) :
    Std.ExtTreeMap FederateId Delay :=
  delays.alter i.connection.source.federate fun
    | none => some i.connection.delay
    | some delay => some (delay.least i.connection.delay)

/-- The federates that this one receives from over logical connections, with the
least delays. -/
def upstream : Std.ExtTreeMap FederateId Delay := plan.awaited.foldl leastDelay ∅

/-- The federates that this one sends to over logical connections. -/
def downstream : Std.ExtTreeSet FederateId :=
  .ofList <| plan.announced.map (·.connection.destination.federate)

/-- What the federate tells the coordinator about its neighbours. -/
def neighbors : Neighbors := ⟨plan.upstream.toList, plan.downstream.toList⟩

end Plan

end Federation
