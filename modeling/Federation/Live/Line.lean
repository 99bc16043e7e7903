/-
Federation/Live/Line.lean

The operating system, as far as a federate needs it: failures, times, addresses
and connections.

A connection is read in the background, and whoever waits looks every few
milliseconds for what has come (`poll`). A conversation is a function of what
has come in so far. It is run, what it wrote is sent, and if it ended because
nothing more had come in, it is run again from where it began once more has come
(`Line.drive`).

Addresses are those of the fourth version of the internet protocol.
-/
import Std.Async.DNS
import Std.Async.TCP
import Federation.Link.Inflow
import Federation.Session.Start

namespace Federation.Live

variable {μ : Type}

open Std.Async Std.Net

/-! ### Failures, times and addresses -/

/-- The kind of a failure with the given number. -/
def kindOf : Nat → IoErrorKind
  | 11 => .wouldBlock
  | 32 => .brokenPipe
  | 98 => .addressInUse
  | 99 => .addressNotAvailable
  | 101 => .networkUnreachable
  | 103 => .connectionAborted
  | 104 => .connectionReset
  | 107 => .notConnected
  | 110 => .timedOut
  | 111 => .connectionRefused
  | _ => .other

/-- The failure with the given number, which may be given as its negative. -/
def numbered (code : UInt32) (details : String) : IoError :=
  let n := min code.toNat (UInt32.size - code.toNat)
  let text :=
    String.ofList
      (match details.toList with | c :: cs => c.toUpper :: cs | [] => [])
  ⟨kindOf n, text ++ " (os error " ++ toString n ++ ")"⟩

/-- A failure of the operating system. -/
def failure : IO.Error → IoError
  | .alreadyExists _ c d | .otherError c d | .resourceBusy c d
      | .resourceVanished c d
  | .unsupportedOperation c d | .hardwareFault c d | .unsatisfiedConstraints c d
  | .illegalOperation c d | .protocolError c d | .timeExpired c d
      | .interrupted _ c d
  | .invalidArgument _ c d | .permissionDenied _ c d | .resourceExhausted _ c d
  | .inappropriateType _ c d | .noSuchThing _ c d => numbered c d
  | .noFileOrDirectory _ c _ => numbered c "No such file or directory"
  | .unexpectedEof => .endOfInput
  | .userError text => ⟨.other, text⟩

/-- What becomes of an action. -/
def attempt {α : Type} (action : IO α) : IO (Except IoError α) := do
  return (← action.toBaseIO).mapError failure

/-- The local time. -/
def localTime : IO Instant := do
  return .clamp (← Std.Time.Timestamp.now).toNanosecondsSinceUnixEpoch.val

/-- Lets so much time pass. -/
def sleep (d : Duration) : IO Unit :=
  IO.sleep (UInt32.ofNat (min (d.nanos / 1000000) 4294967295))

/-- Looks every few milliseconds until something has come of it. -/
partial def poll {α : Type} (look : IO (Option α)) : IO α := do
  match ← look with
  | some a => return a
  | none =>
    IO.sleep 2
    poll look

/-- The moment at which a time limit that begins now is over. -/
def deadlineIn (limit : Duration) : IO Nat :=
  return (← IO.monoNanosNow) + limit.nanos

/-- What an action in the background comes to before the deadline. -/
def await {α : Type} (task : AsyncTask α) (deadline : Nat) :
    IO (Except IoError α) := poll do
  if (← task.getState) = .finished then return some (← attempt task.block)
  if deadline ≤ (← IO.monoNanosNow) then
    return some (.error ⟨.timedOut, "connection timed out"⟩)
  return none

/-- The host of an address of the fourth version. -/
def hostOf (a : IPv4Addr) : HostAddress :=
  ⟨a.octets[0], a.octets[1], a.octets[2], a.octets[3]⟩

/-- An address as the operating system takes it. -/
def socketAddress (a : ServerAddress) : SocketAddress :=
  .v4 ⟨.ofParts a.host.a a.host.b a.host.c a.host.d, a.port⟩

/-- Looks a host up. -/
def lookup (host : String) (port : UInt16) : IO (Except IoError ServerAddress) := do
  let found ← attempt (DNS.getAddrInfo host (toString port) (some .ipv4)).block
  return do
    match (← found).toList.filterMap fun | .v4 a => some a | .v6 _ => none with
    | a :: _ => return ⟨hostOf a, port⟩
    | [] => throw ⟨.notFound, "no address"⟩

/-- Looks a text of a host and a port up. -/
def resolve (text : String) : IO (Option ServerAddress) := do
  match (text.splitOn ":").reverse with
  | port :: host@(_ :: _) =>
    match port.toNat? with
    | some n =>
      if n < 65536 then
        return (← lookup (":".intercalate host.reverse) (UInt16.ofNat n)).toOption
      else return none
    | none => return none
  | _ => return none

/-! ### Connections -/

/-- An open connection. -/
structure Line where
  client : TCP.Socket.Client
  /-- The read under way. -/
  reading : IO.Ref (AsyncTask (Option ByteArray))
  inflow : IO.Ref Inflow
  /-- The number of bytes of the wire that have been sent. -/
  sent : IO.Ref Nat

namespace Line

/-- Begins to read a connection. -/
def ofClient (client : TCP.Socket.Client) : IO Line := do
  let reading ← IO.mkRef (← (client.recv? 65536).toIO)
  return { client, reading, inflow := ← IO.mkRef {}, sent := ← IO.mkRef 0 }

/-- Connects to an address within a time limit. -/
def connect (limit : Duration) (a : ServerAddress) : IO (Except IoError Line) := do
  let client ← TCP.Socket.Client.mk
  match ← await (← (client.connect (socketAddress a)).toIO)
    (← deadlineIn limit) with
  | .error e => return .error e
  | .ok () =>
    client.noDelay
    return .ok (← ofClient client)

/-- Looks for what has come in. -/
def look (l : Line) : IO Unit := do
  let reading ← l.reading.get
  if (← l.inflow.get).ending.isNone && (← reading.getState) = .finished then
    match ← attempt reading.block with
    | .ok (some bytes) =>
      l.inflow.modify (·.feed bytes)
      l.reading.set (← (l.client.recv? 65536).toIO)
    | .ok none => l.inflow.modify (·.close .endOfInput)
    | .error e => l.inflow.modify (·.close e)

/-- Takes what has come in. -/
def take (l : Line) : IO Inflow := do
  l.look
  l.inflow.modifyGet fun i => (i, { i with frames := [] })

/-- Sends what has been written and not been sent. -/
def flush (l : Line) (wire : Wire) : IO Unit := do
  let more := wire.written.extract (← l.sent.get) wire.written.size
  if more.size ≠ 0 then
    let _ ← attempt (l.client.send more).block
    l.sent.set wire.written.size

/-- What a program leaves that was run on what has come in. -/
structure Trace where
  /-- What it wrote, in this run and before. -/
  wire : Wire
  /-- What it did not read. -/
  left : FrameStream
  /-- The pauses that it made, the last one before it last wrote. -/
  pauses : List Duration

/-- What a conversation leaves. -/
def Trace.ofDialogue (d : Dialogue (Socket FrameStream)) : Trace :=
  ⟨d.link.wire, d.link.source, d.pauses⟩

/-- What a part of a start leaves. -/
def Trace.ofStartup (s : Startup μ) : Trace :=
  ⟨s.link.socket.wire, s.link.socket.source, s.pauses⟩

/-- Runs a program on what has come in, again and again until it is not starved
or the deadline has come. So many of its pauses have been made already. -/
def drive {α β : Type} (l : Line) (deadline : Option Nat) (paused : Nat)
    (program : FrameStream → IO (Except Fault α × β)) (trace : β → Trace) :
    IO (Except Fault α × β) := do
  let paused ← IO.mkRef paused
  poll do
    let (result, b) ← program (← l.inflow.get).stream
    let ⟨wire, left, pauses⟩ := trace b
    (pauses.drop (← paused.get)).forM sleep
    paused.set pauses.length
    l.flush wire
    if let .error fault := result then
      if fault.isStarved then
        if deadline.any (· ≤ (← IO.monoNanosNow)) then
          l.inflow.modify (·.close .readTimeout) else l.look
        return none
    l.inflow.modify fun i => { i with frames := left.frames }
    return some (result, b)

end Line

end Federation.Live
