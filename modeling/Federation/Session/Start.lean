/-
Federation/Session/Start.lean

How a federate starts.

A federate starts in this order: it applies the skew that is set for tests;
joins the federation and synchronises its clock; registers the link to the
coordinator; if peers are to come, listens for them and advertises where; opens
its links to peers, by ascending number, asking the coordinator for the
addresses that are not set; hands the link to the coordinator over to its
reader; waits for the peers that are to come; and runs.

The first step that fails ends the start with its fault, in the state that the
federate had reached. With best effort, peers that cannot be linked to or do not
come are done without.

How the stages follow one another, and which faults end a start, is said apart
from what the stages do and what they act on (`Stages`). `Session.start` is one
function of the session and the network. The link to the coordinator, which the
federate reads itself while it starts, is part of the state of the start; when
it succeeds, the link is part of the result.

Restriction: the peers that come are all heard where the federate waits for
them, one after another. A peer may really come as soon as the port is bound;
that it is heard, and its data taken in, while the federate still opens its own
links to peers is not modelled. A start does not look at the peers that have
come before it waits for them, so its result and its states are the same either
way. Not the same may be the peers that a failed start has registered, and the
order in which data of a peer and data of the coordinator enter the inbox.
-/
import Federation.Link.Introduction
import Federation.Link.ServerPort
import Federation.Node.Reading
import Federation.Session.Basic
import Federation.Session.Network

namespace Federation

/-! ### The order of a start -/

/-- The stages of a start, and how it asks what the session says. -/
structure Stages (μ : Type) (m : Type → Type) where
  ask : {α : Type} → (Session μ → α) → m α
  /-- Joins the federation, synchronises the clock, and registers the link to
  the coordinator. -/
  joinCoordinator : m Unit
  /-- Listens for the peers that are to come, and advertises where. -/
  listen : m Unit
  /-- Opens a link to a peer, and registers it. -/
  linkPeer : FederateId → m Unit
  /-- Hands the link to the coordinator over to its reader. -/
  handOver : m Unit
  /-- Waits for the peers that are to come. -/
  awaitPeers : m Unit
  /-- Finds someone who asks for further rounds of synchronisation, if there are
  to be any. -/
  keepSynchronized : m Unit
  /-- Goes on to the running state. -/
  run : m Unit

namespace Stages

variable {μ : Type} {m : Type → Type} [Monad m] (stages : Stages μ m)

/-- Listens if peers are to come. -/
def listenIfExpected : m Unit := do
  if (← stages.ask fun s => s.topology.inbound.isEmpty) = false then stages.listen

variable [MonadExceptOf Fault m]

/-- Opens a link to a peer, or does without it if best effort is enough. -/
def linkPeerOrPass (peer : FederateId) : m Unit := do
  match ← stages.ask (·.config.peers.unreachable) with
  | .strict => stages.linkPeer peer
  | .bestEffort => tryCatch (stages.linkPeer peer) fun _ => return

/-- Opens the links to peers, by ascending number. -/
def linkPeers : m Unit := do
  (← stages.ask fun s => s.topology.outbound.toList).forM stages.linkPeerOrPass

/-- The start of a federate that has joined. -/
def proceed : m Unit := do
  stages.listenIfExpected
  stages.linkPeers
  stages.handOver
  stages.awaitPeers
  stages.keepSynchronized
  stages.run

/-- The start from the open link to the coordinator on. -/
def startOver : m Unit := do
  stages.joinCoordinator
  stages.proceed

end Stages

/-! ### What the stages act on -/

/-- A start under way: the session, the link to the coordinator, and the pauses
so far. -/
structure Startup (μ : Type) where
  session : Session μ
  link : CoordinatorLink
  pauses : List Duration := []

/-- A part of a start. -/
abbrev Start (μ α : Type) := ExceptT Fault (StateM (Startup μ)) α

namespace Start

variable {μ α : Type}

/-- Changes the session. -/
def change (f : Session μ → Session μ) : Start μ Unit :=
  fun s => (.ok (), { s with session := f s.session })

/-- What the session says. -/
def ask (f : Session μ → α) : Start μ α := fun s => (.ok (f s.session), s)

/-- A fault that the world decides on. -/
def failOn (e : Option IoError) (fault : IoError → Fault) : Start μ Unit :=
  match e with
  | none => return
  | some e => throw (fault e)

/-- What the federate takes over from a conversation with the coordinator.
Whoever waits for a status looks at the board. -/
def adopt (d : Dialogue (Socket FrameStream)) (f : Federate μ) : Federate μ :=
  { f with clock := d.clock, inbox := d.inbox }.wake

/-- The registered link to the coordinator writes to the same wire. -/
def share (wire : Wire) (t : Transport) : Transport :=
  { t with coordinator := t.coordinator.map fun e => { e with wire } }

/-- Holds a conversation with the coordinator. -/
def converse (c : Conversation (Socket FrameStream) α) : Start μ α := fun s =>
  let f := s.session.federate
  let (result, d) := c
    { link := s.link.socket, clock := f.clock, inbox := f.inbox, pauses := s.pauses }
  let session :=
    (s.session.withFederate (adopt d)).withTransport (share d.link.wire)
  (result,
    { session, link := { s.link with socket := d.link }, pauses := d.pauses })

end Start

namespace Session

open Start

variable {μ : Type}

/-! ### The coordinator -/

/-- What a fault calls the coordinator that is not reached. -/
def coordinatorName (s : Session μ) : String :=
  "coordinator at " ++ s.config.coordinator.host ++ ":" ++
    toString s.config.coordinator.port

/-- Opens a link to the coordinator. -/
def openCoordinator (net : Network) (s : Session μ) :
    Except Fault CoordinatorLink := do
  let link ←
      (s.config.coordinator.retry.run s.coordinatorName net.coordinator).result
  match net.missing .coordinatorAddress with
  | some e => throw (.connectionLost s.coordinatorName e.text)
  | none => return link

/-- The exchanges to ask for at the start. -/
def startupExchanges (sameHost : Bool) (s : Session μ) : UInt16 :=
  let c := s.config.clockSync
  ClockSync.startupExchanges c.mode c.exchanges sameHost c.force

/-- Whether the federate asks for further rounds of synchronisation while it
runs. -/
def synchronizesWhileRunning (sameHost : Bool) (s : Session μ) : Bool :=
  s.config.clockSync.mode = .on ∧ s.startupExchanges sameHost ≠ 0

/-- Synchronises the clock. -/
def synchronize : Start μ Unit := do
  let s ← ask id
  let sameHost := (← get).link.isSameHost
  let _ ← converse
      (Joining.synchronizeClock s.config.federate (s.startupExchanges sameHost))

/-- Registers the link to the coordinator. -/
def registerCoordinator (net : Network) : Start μ Unit := do
  failOn (net.missing .coordinatorHandle) fun e =>
    .connectionLost "coordinator" e.text
  let wire := (← get).link.socket.wire
  change (·.withTransport (·.setCoordinator { peer := .coordinator, wire }))

/-- Joins the federation, synchronises the clock, and registers the link. -/
def joinCoordinator (net : Network) : Start μ Unit := do
  let s ← ask id
  converse
    (Joining.join s.config.federate s.config.federationId s.federate.plan.neighbors)
  change (·.enter .connectedToCoordinator)
  synchronize
  registerCoordinator net

/-! ### Peers that come -/

/-- Listens at a port that was found, and advertises it. -/
def listenAt (net : Network) (port : UInt16) : Start μ Unit := do
  change fun s => { s with serverPort := some port }.enter .listeningForPeers
  converse (Joining.advertise port)
  failOn (net.missing .acceptor) (.io "failed to spawn acceptor thread")

/-- Finds a port to listen at, and advertises it. -/
def listen (net : Network) : Start μ Unit := do
  let s ← ask id
  let port ← ((s.config.server.listen net.bind).result : Except Fault UInt16)
  listenAt net port

/-- Whom the federate accepts. -/
def admission (s : Session μ) : Admission :=
  ⟨s.config.federationId, s.topology.inbound⟩

/-- The conversation with one that comes. -/
def heard (s : Session μ) (arrival : Socket FrameStream) :
    Except Fault FederateId × Dialogue (Socket FrameStream) :=
  s.admission.hear s.node.transport.hasInbound
    { link := arrival, clock := s.federate.clock }

/-- The session after a conversation with one that came: if it got through, it
is registered, and its link read. -/
def afterHearing (result : Except Fault FederateId) (link : Socket FrameStream)
    (s : Session μ) : Session μ :=
  match result with
  | .error _ => s
  | .ok peer =>
    let e : Endpoint := { peer := .federate peer, wire := link.wire }
    let s := s.withTransport fun t => (t.addInbound peer e).2
    { s with node := s.node.readPeer peer link.source }

/-- Hears a peer that comes. One that is accepted is registered, and its link
read. -/
def accept (arrival : Socket FrameStream) (s : Session μ) : Session μ :=
  let (result, d) := s.heard arrival
  s.afterHearing result d.link

/-- The peers that were to come and did not. -/
def missingPeers (s : Session μ) : List FederateId :=
  s.topology.inbound.toList.filter fun peer => !s.node.transport.hasInbound peer

/-- Whether all peers that are to come have come. -/
def hasAllPeers (s : Session μ) : Bool :=
  s.topology.inbound.size ≤ s.node.transport.inboundCount

/-- Waits for the peers that are to come. -/
def awaitPeers (net : Network) : Start μ Unit := do
  change fun s => net.arrivals.foldl (fun s arrival => s.accept arrival) s
  let s ← ask id
  if s.hasAllPeers = false ∧ s.config.peers.unreachable = .strict then
    let names :=
      ", ".intercalate (s.missingPeers.map fun peer => toString peer.number)
    throw (.unreachable ("inbound peers \x7b" ++ names ++ "\x7d") 1
      ⟨.timedOut, "peers did not connect within the timeout"⟩)

/-! ### Peers to go to -/

/-- Where a peer listens: as the settings say, or else as the coordinator says. -/
def peerAddress (net : Network) (peer : FederateId) : Start μ ServerAddress := do
  let s ← ask id
  match s.config.peers.addressOf peer with
  | some text =>
    match net.resolve text with
    | some address => return address
    | none => throw (.config ("cannot resolve peer address " ++ text))
  | none =>
    let coordinator := (← get).link.remote
    converse
      (Joining.queryAddress s.federate.plan coordinator s.config.peers.retry peer)

/-- What a fault calls a peer that is not reached. -/
def peerName (peer : FederateId) (address : ServerAddress) : String :=
  peer.render ++ " at " ++ address.render

/-- Opens a link to a peer at an address. -/
def openPeer (net : Network) (peer : FederateId) (address : ServerAddress)
    (s : Session μ) : Except Fault (Socket FrameStream) :=
  (s.config.peers.retry.run (peerName peer address) (net.peer peer address)).result

/-- What the federate says to a peer that it has opened a link to. -/
def introduction {σ : Type} [Link σ] (peer : FederateId) (s : Session μ) :
    Conversation σ Unit :=
  introduce s.config.federate s.config.federationId peer

/-- Registers a link that was opened to a peer. -/
def registerPeer (peer : FederateId) (wire : Wire) : Start μ Unit :=
  change (·.withTransport (·.addOutbound peer { peer := .federate peer, wire }))

/-- Opens a link to a peer, and registers it. -/
def linkPeer (net : Network) (peer : FederateId) : Start μ Unit := do
  let address ← peerAddress net peer
  let s ← ask id
  let socket ← (s.openPeer net peer address : Except Fault (Socket FrameStream))
  let d : Dialogue (Socket FrameStream) :=
    { link := socket, clock := s.federate.clock }
  let (result, d) := s.introduction peer d
  let () ← (result : Except Fault Unit)
  failOn (net.missing (.peerHandle peer)) fun e =>
    .connectionLost peer.render e.text
  registerPeer peer d.link.wire

/-! ### The start -/

/-- Finds someone who asks for further rounds of synchronisation, if there are
to be any. -/
def keepSynchronized (net : Network) : Start μ Unit := do
  if (← ask id).synchronizesWhileRunning (← get).link.isSameHost then
    failOn (net.missing .clockSync) (.io "failed to spawn clock sync thread")

/-- The stages of a start in a network. -/
def stages (net : Network) : Stages μ (Start μ) where
  ask := ask
  joinCoordinator := joinCoordinator net
  listen := listen net
  linkPeer := linkPeer net
  handOver := failOn (net.missing .coordinatorReader)
    (.io "failed to spawn coordinator reader thread")
  awaitPeers := awaitPeers net
  keepSynchronized := keepSynchronized net
  run := change (·.enter .running)

/-- Listens if peers are to come. -/
def listenIfExpected (net : Network) : Start μ Unit := (stages net).listenIfExpected

/-- Opens a link to a peer, or does without it if best effort is enough. -/
def linkPeerOrPass (net : Network) (peer : FederateId) : Start μ Unit :=
  (stages net).linkPeerOrPass peer

/-- Opens the links to peers, by ascending number. -/
def linkPeers (net : Network) : Start μ Unit := (stages net).linkPeers

/-- The start of a federate that has joined. -/
def proceed (net : Network) : Start μ Unit := (stages net).proceed

/-- The start from the open link to the coordinator on. -/
def startOver (net : Network) : Start μ Unit := (stages net).startOver

theorem listenIfExpected_eq (net : Network) :
    (listenIfExpected net : Start μ Unit) = (do
      if (← ask fun s => s.topology.inbound.isEmpty) = false then listen net) := rfl

theorem linkPeerOrPass_eq (net : Network) (peer : FederateId) :
    (linkPeerOrPass net peer : Start μ Unit) = (do
      match ← ask (·.config.peers.unreachable) with
      | .strict => linkPeer net peer
      | .bestEffort => tryCatch (linkPeer net peer) fun _ => return) := rfl

theorem linkPeers_eq (net : Network) :
    (linkPeers net : Start μ Unit) = (do
      (← ask fun s => s.topology.outbound.toList).forM (linkPeerOrPass net)) := rfl

/-- The phases behind the conversation with the coordinator. -/
theorem proceed_eq (net : Network) :
    (proceed net : Start μ Unit) = (do
      listenIfExpected net
      linkPeers net
      failOn (net.missing .coordinatorReader)
        (.io "failed to spawn coordinator reader thread")
      awaitPeers net
      keepSynchronized net
      change (·.enter .running)) := rfl

theorem startOver_eq (net : Network) :
    (startOver net : Start μ Unit) = (do
      joinCoordinator net
      proceed net) := rfl

/-- Applies the skew that is set for tests. -/
def applySkew (s : Session μ) : Session μ :=
  match s.config.clockSync.testOffset with
  | none => s
  | some skew =>
    let offset := ClockSync.testOffset s.config.federate (.ofDuration skew)
    s.withFederate fun f => { f with clock := (f.clock.adjust offset).1 }

/-- The session when it turns to the coordinator. -/
def depart (s : Session μ) : Session μ := s.applySkew.enter .connectingToCoordinator

/-- Starts the federate. The result is the link to the coordinator, which is to
be read from then on. -/
def start (net : Network) (s : Session μ) :
    Except Fault CoordinatorLink × Session μ :=
  if s.state ≠ .disconnected then
    (.error (.config ("cannot start from state " ++ s.state.message)), s)
  else
    let s := s.depart
    match s.openCoordinator net with
    | .error e => (.error e, s)
    | .ok link =>
      let (result, r) := startOver net { session := s, link }
      (result.map fun _ => r.link, r.session)

/-- A session that has started before refuses. -/
theorem start_of_ne {net : Network} {s : Session μ}
    (hstate : s.state ≠ .disconnected) :
    s.start net
      = (.error (.config ("cannot start from state " ++ s.state.message)), s) :=
      if_pos hstate

/-- Without a link to the coordinator the start ends before the first
conversation. -/
theorem start_of_error {net : Network} {s : Session μ} {e : Fault}
    (hstate : s.state = .disconnected)
    (h : s.depart.openCoordinator net = .error e) :
    s.start net = (.error e, s.depart) := by
  simp only [start, if_neg (not_not_intro hstate), h]

/-- With one it goes through the phases, and ends as they do. -/
theorem start_of_ok {net : Network} {s : Session μ} {link : CoordinatorLink}
    (hstate : s.state = .disconnected)
    (h : s.depart.openCoordinator net = .ok link) :
    let r := startOver net { session := s.depart, link }
    s.start net = (r.1.map fun _ => r.2.link, r.2.session) := by
  simp only [start, if_neg (not_not_intro hstate), h]
  rfl

/-- Reads the link to the coordinator to its end. -/
def readCoordinator (link : CoordinatorLink) (s : Session μ) : Session μ :=
  let round := SyncRound.ofExchanges s.config.clockSync.exchanges
  { s with node := (s.node.readCoordinator link.socket.source round).2 }

end Session

end Federation
