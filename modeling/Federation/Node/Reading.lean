/-
Federation/Node/Reading.lean

Reading the links of a federate.

A reader takes in the frames of a link one after another, until a read fails or
a frame is refused.

The link to the coordinator carries data and the exchanges of clock
synchronisation side by side: a T1 is answered at once, a T4 may complete a
round and so correct the clock, and everything else is data. When the
coordinator goes away, that is a fault; a peer may go away when it has ended.
While the federate itself is about to end, a failed read is no fault.
-/
import Federation.ClockSync.Round
import Federation.Node.Basic

namespace Federation.Node

variable {κ μ : Type} [FrameSource κ]

/-! ### Peers -/

/-- The report about a failed read from a peer, if there is one. -/
def peerReport? (peer : FederateId) (shuttingDown : Bool) (e : FrameError) :
    Option Fault :=
  if shuttingDown || e.isDisconnect then none else some (.frame peer.render e)

/-- Reads the link of a peer to its end. -/
def readPeer (peer : FederateId) (source : κ) (n : Node μ) : Node μ :=
  match h : FrameSource.next source with
  | (.error e, _) =>
    match peerReport? peer n.transport.shuttingDown e with
    | some fault => n.report fault
    | none => n
  | (.ok f, rest) =>
    have := FrameSource.size_lt_of_next h
    match n.dispatch (.federate peer) f with
    | (.error e, n) => n.report e
    | (.ok _, n) => readPeer peer rest n
termination_by FrameSource.size source

/-! ### The coordinator -/

/-- The report about a failure at the link to the coordinator, if there is one. -/
def unlessShuttingDown (fault : Fault) (n : Node μ) : Node μ :=
  if n.transport.shuttingDown then n else n.report fault

/-- Applies an event of a round to the clock. -/
def withSync (event : SyncState → SyncState) (round : SyncRound) (n : Node μ) :
    SyncRound × Node μ :=
  let s := event ⟨round, n.federate.clock⟩
  (s.round, { n with federate := { n.federate with clock := s.clock } })

/-- Answers a T1. -/
def answerT1 (time : Instant) (round : SyncRound) (n : Node μ) :
    Except Fault Unit × SyncRound × Node μ :=
  let (round, n) := n.withSync (·.onT1 time) round
  let (result, n) := n.send ⟨.coordinator, .clockSyncT3 n.transport.federate⟩
  let (round, n) := n.withSync (·.onAnswer) round
  (result.mapError fun e => .connectionLost "coordinator" e.message, round, n)

/-- Takes in a frame from the coordinator. -/
def takeFromCoordinator (f : Frame) (round : SyncRound) (n : Node μ) :
    Except Fault Unit × SyncRound × Node μ :=
  match f with
  | .clockSyncT1 time => n.answerT1 time round
  | .clockSyncT4 time =>
    let (round, n) := n.withSync (fun s => (s.onT4 time).1) round
    (.ok (), round, n)
  | f =>
    let (result, n) := n.dispatch .coordinator f
    (result.map fun _ => (), round, n)

/-- Reads the link of the coordinator to its end. -/
def readCoordinator (source : κ) (round : SyncRound) (n : Node μ) :
    SyncRound × Node μ :=
  match h : FrameSource.next source with
  | (.error e, _) => (round, n.unlessShuttingDown (.ofRead "coordinator" e))
  | (.ok f, rest) =>
    have := FrameSource.size_lt_of_next h
    match n.takeFromCoordinator f round with
    | (.error e, round, n) => (round, n.unlessShuttingDown e)
    | (.ok (), round, n) => readCoordinator rest round n
termination_by FrameSource.size source

end Federation.Node
