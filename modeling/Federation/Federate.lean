/-
Federation/Federate.lean

A federate apart from its connections.

`Federate` holds what a federate is while it runs: its plan and setting, its
ports at the current tag, what has arrived, its clock, and the waits that are
going on. Frames come in through `dispatch`, messages that were scheduled reach
the ports through `receive`, and what leaves goes through the `Post` that is
given to `sendAll` and `announceAll`.

News on the board wake the waits: each looks at the board, in the order in which
they began, and a wait that ends with an absence resolves its port. What is no
news wakes no one: an absence that the deadline of another wait has decided, and
that messages are forgotten.
-/
import Federation.Clock
import Federation.Input
import Federation.Output

namespace Federation

/-- A wait for an inlet, and how it ended if it did. -/
structure AwaitEntry where
  inlet : Inlet
  wait : Wait
  outcome : Option PortStatus := none
deriving DecidableEq

/-- A federate apart from its connections. -/
structure Federate (μ : Type) where
  plan : Plan
  context : Context μ
  ports : PortStore μ
  inbox : Inbox := {}
  clock : Clock
  awaits : List AwaitEntry := []

namespace Federate

variable {σ μ : Type} (f : Federate μ)

/-- What is known of an input at a tag. -/
def status (port : PortId) (tag : Tag) : PortStatus := f.inbox.board.status port tag

/-- One look at the board by a wait. -/
def lookOne (f : Federate μ) (e : AwaitEntry) : AwaitEntry × Federate μ :=
  match e.outcome with
  | some _ => (e, f)
  | none =>
    let (step, board, ports) :=
      e.inlet.look e.wait f.clock.now f.inbox.board f.ports
    let f :=
      { f with ports, inbox := { f.inbox with board }, clock := f.clock.tick }
    match step with
    | .resolved status => ({ e with outcome := some status }, f)
    | .pending _ => (e, f)

/-- All waits look at the board. -/
def wake : Federate μ :=
  let (awaits, f) := inTurn (fun e f => lookOne f e) f.awaits f
  { f with awaits }

/-- Changes the board by what is no news, so that no one wakes. -/
def changeBoardQuietly (change : Board → Board) : Federate μ :=
  { f with inbox := { f.inbox with board := change f.inbox.board } }

/-- Changes the board by news, which wake those that wait. -/
def changeBoard (change : Board → Board) : Federate μ :=
  wake (f.changeBoardQuietly change)

/-- Takes in a frame. It is news if it was not refused and is recorded on the
board. -/
def dispatch (source : Destination) (frame : Frame) :
    Except Fault Dispatched × Federate μ :=
  let (result, inbox) := f.plan.dispatch source f.clock.now frame f.inbox
  let f := { f with inbox, clock := f.clock.tick }
  (result, if result.isOk && frame.isRecorded then f.wake else f)

/-- Goes on to a tag. -/
def advance (tag : Tag) : Federate μ := { f with ports := .fresh tag }

/-- Sets the value of a port. -/
def set (port : Port) (value : PortValue μ) : Federate μ :=
  { f with ports := f.ports.set port value }

/-- Every outlet sends its value. -/
def sendAll (post : Post σ) (s : σ) : List (Except Fault SendOutcome) × σ :=
  f.plan.sendAll post f.context f.ports.view s

/-- Every logical outlet announces its absence. -/
def announceAll (post : Post σ) (s : σ) : List (Except Fault Bool) × σ :=
  f.plan.announceAll post f.context f.ports.view s

/-- A wait for an inlet at the current tag, during which nothing else happens. -/
def await (i : Inlet) (f : Federate μ) : PortStatus × Federate μ :=
  let (status, board, ports) := i.await f.context f.clock.now f.inbox.board f.ports
  (status, { f with ports, inbox := { f.inbox with board }, clock := f.clock.tick })

/-- Waits for every logical inlet, one after another. -/
def awaitAll : List PortStatus × Federate μ := inTurn await f.plan.awaited f

/-- Begins to wait for an inlet at the current tag. -/
def beginAwait (i : Inlet) : Federate μ :=
  let entry : AwaitEntry := { inlet := i, wait := i.wait f.context f.ports.tag }
  let (entry, f) := lookOne f entry
  { f with awaits := f.awaits ++ [entry] }

/-- How the last wait that was begun ended; none as long as it goes on. -/
def lastAwait? : Option PortStatus := f.awaits.getLast? >>= (·.outcome)

/-- Delivers a message to the port of its action; none if there is no such
action. -/
def receive (m : ReceivedMessage) : Option (Except Fault Unit) × Federate μ :=
  match f.plan.inlet? m.port with
  | none => (none, f)
  | some i =>
    let (result, ports) := i.receive f.context m f.ports
    (some result, { f with ports })

end Federate

end Federation
