/-
Federation/Output.lean

What leaves a federate at a tag.

At every tag each outlet has its turn twice. First it sends the value of its
port, if there is one (`Outlet.send`); then, if it is logical and its port was
not set, it announces the absence (`Outlet.announce`). So over a logical
connection exactly one frame leaves at each tag: a message or a notice, for the
same port id and the same tag, which is the current one delayed as the
connection declares.

What is to leave is worked out before anything is sent (`Outlet.message?`,
`Outlet.notice?`), so a value without payload or a tag out of range sends
nothing. The sending itself is a parameter, a `Post`. If it fails, a message on
a physical connection is dropped, and all else is a fault.
-/
import Federation.Context
import Federation.Fault
import Federation.Plan
import Federation.PortStore

namespace Federation

/-- A frame and where it goes. -/
@[ext] structure Parcel where
  destination : Destination
  frame : Frame
deriving DecidableEq

/-- A way to send, with a state of its own. -/
abbrev Post (σ : Type) := Parcel → σ → Except SendError Unit × σ

/-- What became of a message. -/
inductive SendOutcome where
  | sent
  /-- The port has no value. -/
  | notPresent
  /-- The sending failed, which a physical connection allows. -/
  | dropped
deriving DecidableEq

namespace Outlet

variable {σ μ : Type} (o : Outlet)

/-- The federate that receives. -/
def receiver : FederateId := o.connection.destination.federate

/-- Where the frames of the outlet go. -/
def destination (coordination : Coordination) : Destination :=
  if (o.connection.route coordination).isDirect then .federate o.receiver
    else .coordinator

/-- The tag at which what leaves now arrives. -/
def arrivalTag (view : PortView μ) : Except Fault Tag :=
  (view.tag.delayed o.connection.delay).mapError .time

/-- The value to send. One element of a bank or a multiport must be present
itself. -/
def value? (view : PortView μ) : Option (PortValue μ) :=
  let port := o.connection.source.port
  if port.isIndexed && !view.isPresent port then none else view.value? port

/-- The payload of a value on the connection. -/
def encode (codec : PayloadCodec μ) (value : PortValue μ) :
    Except Fault ByteArray :=
  (codec.encode o.connection.serializer o.connection.valueType value).mapError
    (.payload o.connection.render)

/-- The frame of a payload. -/
def frame (coordination : Coordination) (view : PortView μ) (payload : ByteArray) :
    Except Fault Frame :=
  match o.connection.route coordination with
  | .untimedDirect => .ok (.untimedMessage ⟨o.port, o.receiver, payload⟩)
  | .taggedDirect => do
    return .peerTaggedMessage ⟨o.port, o.receiver, ← o.arrivalTag view, payload⟩
  | .taggedViaCoordinator => do
    return .taggedMessage ⟨o.port, o.receiver, ← o.arrivalTag view, payload⟩

/-- The message to send at the current tag; none if the port has no value. -/
def message? (ctx : Context μ) (view : PortView μ) : Except Fault (Option Parcel) :=
  match o.value? view with
  | none => .ok none
  | some value => do
    let payload ← o.encode ctx.codec value
    let frame ← o.frame ctx.coordination view payload
    return some ⟨o.destination ctx.coordination, frame⟩

/-- A value that has a payload is sent in the frame of the payload, if it has
one. -/
theorem message?_of_encode {ctx : Context μ} {view : PortView μ}
    {value : PortValue μ} {payload : ByteArray}
    (hvalue : o.value? view = some value)
    (hpayload : o.encode ctx.codec value = .ok payload) :
    o.message? ctx view = (o.frame ctx.coordination view payload).map fun frame =>
      some ⟨o.destination ctx.coordination, frame⟩ := by
  simp only [message?, hvalue, hpayload]
  exact bind_pure_comp (m := Except Fault) _ _

/-- The notice of absence to send at the current tag; none if the port is
present. -/
def notice? (ctx : Context μ) (view : PortView μ) : Except Fault (Option Parcel) :=
  if view.isPresent o.connection.source.port then .ok none
  else do
    return some ⟨o.destination ctx.coordination,
      .portAbsent ⟨o.port, o.receiver, ← o.arrivalTag view⟩⟩

/-- What a failed or successful sending of a message means. -/
def settle : Except SendError Unit → Except Fault SendOutcome
  | .ok () => .ok .sent
  | .error e =>
    if o.connection.physical then .ok .dropped
      else .error (.send o.connection.render false e)

/-- Sends the value of the port, if there is one. -/
def send (post : Post σ) (ctx : Context μ) (view : PortView μ) (s : σ) :
    Except Fault SendOutcome × σ :=
  match o.message? ctx view with
  | .error e => (.error e, s)
  | .ok none => (.ok .notPresent, s)
  | .ok (some parcel) =>
    let (result, s) := post parcel s
    (o.settle result, s)

/-- Announces the absence of the port, if it is absent. The result says whether
a notice was sent. -/
def announce (post : Post σ) (ctx : Context μ) (view : PortView μ) (s : σ) :
    Except Fault Bool × σ :=
  match o.notice? ctx view with
  | .error e => (.error e, s)
  | .ok none => (.ok false, s)
  | .ok (some parcel) =>
    match post parcel s with
    | (.ok (), s) => (.ok true, s)
    | (.error e, s) =>
      (.error (.send o.connection.render o.connection.physical e), s)

end Outlet

/-- Gives each of a list its turn, and collects the results. -/
def inTurn {α β σ : Type} (f : α → σ → β × σ) : List α → σ → List β × σ
  | [], s => ([], s)
  | a :: as, s =>
    let (b, s) := f a s
    let (bs, s) := inTurn f as s
    (b :: bs, s)

@[simp] theorem inTurn_cons {α β σ : Type} (f : α → σ → β × σ) (a : α)
    (as : List α) (s : σ) :
    inTurn f (a :: as) s
      = ((f a s).1 :: (inTurn f as (f a s).2).1, (inTurn f as (f a s).2).2) := rfl

namespace Plan

variable {σ μ : Type} (plan : Plan)

/-- Every outlet sends its value. -/
def sendAll (post : Post σ) (ctx : Context μ) (view : PortView μ) (s : σ) :
    List (Except Fault SendOutcome) × σ :=
  inTurn (fun o => o.send post ctx view) plan.outlets s

/-- Every logical outlet announces its absence. -/
def announceAll (post : Post σ) (ctx : Context μ) (view : PortView μ) (s : σ) :
    List (Except Fault Bool) × σ :=
  inTurn (fun o => o.announce post ctx view) plan.announced s

end Plan

/-- A record of what was sent, in order, with the destinations at which sending
fails. -/
@[ext] structure Outbox where
  parcels : List Parcel := []
  failing : List Destination := []
deriving DecidableEq

namespace Outbox

/-- Records a parcel; one to a failing destination finds the connection closed. -/
def post : Post Outbox := fun parcel box =>
  if parcel.destination ∈ box.failing then
    (.error (.closed parcel.destination), box)
  else (.ok (), { box with parcels := box.parcels ++ [parcel] })

/-- Lets the sending to a destination fail from now on. -/
def failFor (box : Outbox) (destination : Destination) : Outbox :=
  { box with failing := destination :: box.failing }

/-- The frames that went to a destination. -/
def framesTo (box : Outbox) (destination : Destination) : List Frame :=
  (box.parcels.filter (·.destination = destination)).map (·.frame)

end Outbox

end Federation
