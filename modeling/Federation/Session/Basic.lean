/-
Federation/Session/Basic.lean

The life of a federate.

A session brings together the settings of a federate, its plan and its links. It
goes through the states

    disconnected, connecting to the coordinator, connected to the coordinator,
    listening for peers (if any are expected), running, shutting down, closed

and never back. `Session.new` refuses settings that do not fit the plan; the
peers of the settings extend those of the plan. `Session.shutdown` tells the
coordinator that the federate resigns, releases all who wait for a status, and
closes the links; a second one does nothing.
-/
import Federation.Config.Basic
import Federation.Node.Basic

namespace Federation

/-- The states of a session. -/
inductive SessionState where
  | disconnected
  | connectingToCoordinator
  | connectedToCoordinator
  | listeningForPeers
  | running
  | shuttingDown
  | closed
deriving DecidableEq

namespace SessionState

/-- A state as messages name it. -/
def message : SessionState → String
  | disconnected => "DISCONNECTED"
  | connectingToCoordinator => "CONNECTING_TO_COORDINATOR"
  | connectedToCoordinator => "CONNECTED_TO_COORDINATOR"
  | listeningForPeers => "LISTENING_FOR_PEERS"
  | running => "RUNNING"
  | shuttingDown => "SHUTTING_DOWN"
  | closed => "CLOSED"

/-- A state as diagnostics show it. -/
def render : SessionState → String
  | disconnected => "Disconnected"
  | connectingToCoordinator => "ConnectingToCoordinator"
  | connectedToCoordinator => "ConnectedToCoordinator"
  | listeningForPeers => "ListeningForPeers"
  | running => "Running"
  | shuttingDown => "ShuttingDown"
  | closed => "Closed"

end SessionState

/-- The life of a federate. -/
structure Session (μ : Type) where
  config : Config
  node : Node μ
  /-- The direct links that the plan and the settings ask for. -/
  topology : Topology
  state : SessionState := .disconnected
  /-- The states before this one, the last one first. -/
  past : List SessionState := []
  /-- The port at which the federate listens. -/
  serverPort : Option UInt16 := none

/-- The links of a topology and those of the settings. -/
def PeerSettings.extend (s : PeerSettings) (t : Topology) : Topology where
  inbound := t.inbound.insertMany s.inbound
  outbound := t.outbound.insertMany (s.outbound.map (·.id))

namespace Session

variable {μ : Type}

/-- The session of a federate with the given settings, plan, ports, clock and
codec. -/
def new (config : Config) (plan : Plan) (ports : PortStore μ) (clock : Clock)
    (codec : PayloadCodec μ) : Except Fault (Session μ) :=
  match config.flaws with
  | flaw :: _ => .error (.config flaw.report)
  | [] =>
    if plan.federate ≠ config.federate then
      .error (.config ("plan is for " ++ plan.federate.render ++
        ", configuration for " ++ config.federate.render))
    else if plan.coordination ≠ config.coordination.mode then
      .error (.config ("plan uses " ++ plan.coordination.render ++
        " coordination, configuration " ++ config.coordination.mode.render))
    else
      let context : Context μ :=
        { federate := config.federate, coordination := config.coordination.mode,
          stpOffset := config.stpOffset, codec }
      .ok {
        config
        node := { federate := { plan, context, ports, clock }
                  transport := { federate := config.federate } }
        topology := config.peers.extend plan.topology }

variable (s : Session μ)

/-- The federate. -/
def federate : Federate μ := s.node.federate

/-- Changes the federate. -/
def withFederate (change : Federate μ → Federate μ) : Session μ :=
  { s with node := { s.node with federate := change s.node.federate } }

/-- Changes the links. -/
def withTransport (change : Transport → Transport) : Session μ :=
  { s with node := { s.node with transport := change s.node.transport } }

/-- Goes on to a state. -/
def enter (next : SessionState) : Session μ :=
  { s with state := next, past := s.state :: s.past }

/-- Forgets what is known of the tags before `tag`. -/
def tagCompleted (tag : Tag) : Session μ :=
  s.withFederate (·.changeBoardQuietly (·.pruneBefore tag))

/-- Tells the coordinator that the federate resigns, if there is a link that is
not busy. -/
def resign (busy : Bool) (t : Transport) : Transport :=
  match t.coordinator with
  | none => t
  | some e => t.setCoordinator (e.trySend .resign busy).2

/-- Ends the session. A write to the coordinator may be in progress. -/
def shutdown (busy : Bool) : Session μ :=
  if s.state = .closed then s
  else
    let s :=
      (s.enter .shuttingDown).withTransport fun t => resign busy t.beginShutdown
    let s :=
      (s.withFederate (·.changeBoard (·.shutdown))).withTransport (·.closeAll)
    s.enter .closed

/-- A session as diagnostics show it. -/
def render : String :=
  "FederateRuntime \x7b federate: " ++ s.config.federate.renderInList ++
    ", state: " ++ s.state.render ++ ", server_port: " ++
    (match s.serverPort with
      | some p => "Some(" ++ toString p ++ ")"
      | none => "None") ++ ", .. \x7d"

end Session

end Federation
