/-
Federation/Live.lean

Sessions over the network of the operating system.

The library decides what a federate does; this module only lets it happen. The
order of a start, and what becomes of its faults, is that of `Stages`; attempts
go by `RetryPolicy.runM`, and ports are tried by `ServerSettings.listenM`. What
a part of a start does is run on what has come in so far, and again when more
has come: readings of the clock are kept, so that it does the same again and
then goes further.
-/
import Federation.Live.Line

namespace Federation.Live

variable {μ : Type}

open Std.Async

/-- A session that talks to the coordinator, with all its connections. -/
structure LiveSession (μ : Type) where
  startup : Startup μ
  coordinator : Line
  round : SyncRound
  server : Option TCP.Socket.Server := none
  /-- The peer that is about to be accepted. -/
  arriving : Option (AsyncTask TCP.Socket.Client) := none
  inbound : List (FederateId × Line) := []
  /-- The connections that the federate opened; they are kept so that they stay
  open. -/
  outbound : List Line := []
  /-- The readings of the clock so far. -/
  readings : Array Instant := #[]
  /-- Whether the link to the coordinator is still read. -/
  heard : Bool := true
  /-- When the next round of synchronisation is to be asked for. -/
  nextRound : Option Nat := none

/-- The actions of a live session. -/
abbrev LiveM (μ : Type) := StateRefT (LiveSession μ) IO

/-- The parts of a live start. -/
abbrev LiveStart (μ α : Type) := ExceptT Fault (LiveM μ) α

namespace LiveSession

/-- The federate with a clock that reads as it did, and from then on the local
time. -/
def clocked (readings : Array Instant) (now : Instant) (s : Session μ) :
    Session μ :=
  s.withFederate fun f =>
    { f with clock := { f.clock with readings := fun n => (readings[n]?).getD now } }

/-- The readings of the clock when those that are new were made at `now`. -/
def remember (readings : Array Instant) (now : Instant) (s : Session μ) :
    Array Instant :=
  readings ++ Array.replicate (s.federate.clock.readCount - readings.size) now

/-- Lets a part of the start happen. -/
def perform {α : Type} (part : Start μ α) : LiveStart μ α := ExceptT.mk do
  let live ← get
  let kept ← IO.mkRef live.readings
  let program (source : FrameStream) : IO (Except Fault α × Startup μ) := do
    let now ← localTime
    let session := clocked (← kept.get) now live.startup.session
    let link :=
      { live.startup.link with socket := { live.startup.link.socket with source } }
    let (result, startup) := part { live.startup with session, link }
    kept.modify (remember · now startup.session)
    return (result, startup)
  let (result, startup) ←
    live.coordinator.drive none live.startup.pauses.length program
      Line.Trace.ofStartup
  set { live with startup, readings := ← kept.get }
  return result

/-- Changes the session by something that may read the clock, and sends what it
wrote to the coordinator. -/
def update {α : Type} (change : Session μ → α × Session μ) : LiveM μ α := do
  let live ← get
  let now ← localTime
  let (a, session) := change (clocked live.readings now live.startup.session)
  set { live with
    startup := { live.startup with session },
      readings := remember live.readings now session }
  if let some e :=
    session.node.transport.coordinator then live.coordinator.flush e.wire
  return a

/-! ### Peers -/

/-- What becomes of a try to listen at a port. -/
def bind (host : String) (p : UInt16) : LiveM μ (Except IoError UInt16) := do
  let outcome ← attempt do
    let address ←
        IO.ofExcept ((← lookup host p).mapError fun e => IO.userError e.text)
    let client ← TCP.Socket.Client.mk
    if p ≠ 0 &&
      (← attempt (client.connect (socketAddress ⟨.loopback, p⟩)).block).isOk
      then return none
    let server ← TCP.Socket.Server.mk
    server.bind (socketAddress address)
    server.listen 128
    return some (server, (← server.getSockName).port)
  match outcome with
  | .ok (some (server, port)) =>
    modify fun live => { live with server := some server }
    return .ok port
  | .ok none => return .error .inUse
  | .error e => return .error e

/-- Finds a port to listen at, and advertises it. -/
def listen (net : Network) : LiveStart μ Unit := do
  let settings := (← get).startup.session.config.server
  let search ← settings.listenM fun p => (bind settings.host p : LiveM μ _)
  let port ← (search.result : Except Fault UInt16)
  perform (Session.listenAt net port)

/-- Links to a peer. -/
def linkPeer (net : Network) (peer : FederateId) : LiveStart μ Unit := do
  let address ← perform (Session.peerAddress net peer)
  let s := (← get).startup.session
  let limit := s.config.peers.connectTimeout
  let run ← s.config.peers.retry.runM (Session.peerName peer address)
      (fun d => (sleep d : IO _))
    fun _ => (Line.connect limit address : IO _)
  let line ← (run.result : Except Fault Line)
  let program (source : FrameStream) :
      IO (Except Fault Unit × Dialogue (Socket FrameStream)) :=
    return s.introduction peer { link := { source }, clock := s.federate.clock }
  let (result, d) ← line.drive
      (some (← deadlineIn limit)) 0 program Line.Trace.ofDialogue
  let () ← (result : Except Fault Unit)
  modify fun live => { live with outbound := line :: live.outbound }
  perform (Session.registerPeer peer d.link.wire)

/-- Hears a peer that comes. -/
def acceptPeer (client : TCP.Socket.Client) : LiveM μ Unit := do
  let s := (← get).startup.session
  let line ← Line.ofClient client
  let deadline ← deadlineIn s.config.peers.connectTimeout
  let program (source : FrameStream) :
      IO (Except Fault FederateId × Dialogue (Socket FrameStream)) :=
    return s.heard { source }
  let (result, d) ← line.drive (some deadline) 0 program Line.Trace.ofDialogue
  -- what comes behind the introduction is read when it has come
  update fun s =>
    ((), s.afterHearing result { d.link with source := ⟨[], .io .endOfInput⟩ })
  if let .ok peer := result then modify fun live =>
    { live with inbound := (peer, line) :: live.inbound }

/-- Hears the peers that have come. -/
def lookAtServer : LiveM μ Unit := do
  let live ← get
  match live.server, live.arriving with
  | none, _ => return
  | some server, none =>
    let task ← server.accept.toIO
    modify fun live => { live with arriving := some task }
  | some _, some task =>
    if (← task.getState) = .finished then
      modify fun live => { live with arriving := none }
      if let .ok client ← attempt task.block then acceptPeer client

/-- Takes in what has come from an accepted peer. -/
def lookAtPeer (peer : FederateId) (line : Line) : LiveM μ Unit := do
  let inflow ← line.take
  let source : FrameStream := ⟨inflow.frames, inflow.ending.getD (.io .endOfInput)⟩
  update fun s => ((), { s with node := s.node.readPeer peer source })
  -- an ending is reported once
  line.inflow.modify fun i =>
    { i with ending := i.ending.map fun _ => .io .endOfInput }

/-- Takes in a frame from the coordinator, if its link is still read. -/
def hearCoordinator (f : Frame) : LiveM μ Unit := do
  let live ← get
  if live.heard then
    let (heard, round) ← update fun s =>
      let (result, round, node) := s.node.takeFromCoordinator f live.round
      match result with
      | .ok () => ((true, round), { s with node })
      | .error e => ((false, round), { s with node := node.unlessShuttingDown e })
    modify fun live => { live with heard, round }

/-- Takes in what has come from the coordinator. -/
def lookAtCoordinator : LiveM μ Unit := do
  let inflow ← (← get).coordinator.take
  inflow.frames.forM hearCoordinator
  if let some e := inflow.ending then
    if (← get).heard then
      modify fun live => { live with heard := false }
      update fun s =>
        ((), { s with node := s.node.unlessShuttingDown (.ofRead "coordinator" e) })

/-- Sets the time of the next round of synchronisation, if there is to be one. -/
def planRound : LiveM μ Unit := do
  let s := (← get).startup.session
  if s.synchronizesWhileRunning (← get).startup.link.isSameHost then
    let due ← deadlineIn s.config.clockSync.period
    modify fun live => { live with nextRound := some due }

/-- Asks for a round of synchronisation when it is time. -/
def requestRound : LiveM μ Unit := do
  if let some due := (← get).nextRound then
    if due ≤ (← IO.monoNanosNow) then
      let exchanges := (← get).startup.session.config.clockSync.exchanges
      update fun s =>
        ((), { s with
          node := (s.node.send ⟨.coordinator, .clockSyncRequest exchanges⟩).2 })
      planRound

/-- Lets the session live until a condition holds or the deadline has come. It
ends at a fault, too. -/
def liveUntil (condition : Session μ → Bool) (deadline : Nat) : LiveM μ Unit :=
  fun live => poll do
  let ended : LiveM μ Bool := do
    lookAtCoordinator
    lookAtServer
    requestRound
    (← get).inbound.forM fun (peer, line) => lookAtPeer peer line
    let s := (← get).startup.session
    return condition s || !s.node.faults.isEmpty ||
      decide (deadline ≤ (← IO.monoNanosNow))
  if ← ended live then return some () else return none

/-- Waits for the peers that are to come. -/
def awaitPeers (net : Network) : LiveStart μ Unit := do
  let deadline ← deadlineIn (← get).startup.session.config.peers.connectTimeout
  (liveUntil Session.hasAllPeers deadline : LiveM μ Unit)
  perform (Session.awaitPeers net)

/-- The stages of a start over the network of the operating system. -/
def stages (net : Network) : Stages μ (LiveStart μ) where
  ask f := return f (← get).startup.session
  joinCoordinator := perform (Session.joinCoordinator net)
  listen := listen net
  linkPeer := linkPeer net
  handOver := return
  awaitPeers := awaitPeers net
  keepSynchronized := (planRound : LiveM μ Unit)
  run := perform (Start.change (·.enter .running))

/-- Ends the session. -/
def shutdown : LiveM μ Unit := update fun s => ((), s.shutdown false)

/-- Starts, shows `greet` of the session, lives for a while, and ends. The
result is the fault of the start, if it failed, or else whether the session
lived without faults. -/
def live (net : Network) (linger : Duration) (greet : Session μ → IO Unit) :
    LiveM μ (Except Fault Bool) := do
  let result ← (stages net).startOver
  let outcome ← match result with
    | .error fault => pure (.error fault)
    | .ok () =>
      greet (← get).startup.session
      liveUntil (fun _ => false) (← deadlineIn linger)
      pure (.ok (← get).startup.session.node.faults.isEmpty)
  shutdown
  return outcome

end LiveSession

/-- Reaches the coordinator, with the pauses of the policy between the attempts. -/
def reach (s : Session μ) : IO (RetryRun (HostAddress × Line)) :=
  let c := s.config.coordinator
  c.retry.runM s.coordinatorName sleep fun _ => do
    match ← lookup c.host c.port with
    | .error e => return .error e
    | .ok a => return (← Line.connect c.connectTimeout a).map (a.host, ·)

/-- A network that knows the addresses that are set for peers, and nothing else. -/
def addressBook (s : Session μ) : IO Network := do
  let found ← (s.config.peers.outbound.filterMap (·.address)).mapM fun text =>
    return (text, ← resolve text)
  return { Network.silent .noRoute with
    resolve := fun text => (found.lookup text).join }

/-- Starts a session, shows `greet` of it, lets it live for a while, and ends
it. The result is the fault of the start, if it failed, or else whether it lived
without faults. -/
def run (s : Session μ) (linger : Duration) (greet : Session μ → IO Unit) :
    IO (Except Fault Bool) := do
  let s := s.depart
  match (← reach s).result with
  | .error fault => return .error fault
  | .ok (remote, coordinator) =>
    let socket : Socket FrameStream := { source := ⟨[], .io .starved⟩ }
    let startup : Startup μ := { session := s, link := { socket, remote } }
    let round := SyncRound.ofExchanges s.config.clockSync.exchanges
    (LiveSession.live (← addressBook s) linger greet).run'
      { startup, coordinator, round }

end Federation.Live
