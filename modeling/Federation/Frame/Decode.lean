/-
Federation/Frame/Decode.lean

Frames from bytes.

`Frame.reader` takes one frame from the front of a block. A frame that no
federate may send is refused as soon as the offending field is read: an unknown
type byte, a payload size or a count of neighbours beyond the limits (the size
of a tagged payload only after its tag), a federation id that is not text. The
4-byte port fields are read with tolerance: a port out of range counts as no
port, which an advertisement writes as port 0.

A successful read goes forward by at least the type byte (`lt_of_next`), so the
frames of a block can be read one after another until a read fails.
-/
import Federation.Frame.Basic
import Federation.Frame.Reader

namespace Federation

namespace Reader

open Federation.Frame

/-- Takes the payload of a frame, once its size is known. -/
def payload (size : Nat) : Reader ByteArray :=
  if size ≤ maxPayload then take size else throw (.tooLarge size)

/-- Takes a count of neighbours. -/
def count : Reader Nat := do
  let n ← int 4
  if 0 ≤ n ∧ n ≤ maxNeighbors then
    return n.toNat else throw (.tooManyNeighbors n.natAbs)

/-- Takes a federation id with its size in front. -/
def federation : Reader String := do
  let size ← nat 1
  let bytes ← take size
  match String.fromUTF8? bytes with
  | some s => return s
  | none => throw .invalidFederationId

/-- Takes a delay; the least 64-bit number stands for a missing one. -/
def delay : Reader Delay := do
  let n ← int 8
  return if n = -9223372036854775808 then none else some (.clamp n)

/-- Takes an upstream neighbour. -/
def upstream : Reader (FederateId × Delay) := do
  let federate ← Reader.federate
  let delay ← Reader.delay
  return (federate, delay)

/-- Takes a port of four bytes; none if it is out of range. -/
def widePort : Reader (Option UInt16) := do
  let n ← int 4
  return if 0 ≤ n ∧ n < 65536 then some (UInt16.ofNat n.toNat) else none

/-- Takes the address of a host. -/
def host : Reader HostAddress := do
  let bytes ← take 4
  return match bytes.data.toList with
    | [a, b, c, d] => ⟨a, b, c, d⟩
    | _ => .unspecified

/-- Takes a tagged message. -/
def taggedMessage : Reader TaggedMessage := do
  let port ← Reader.port
  let federate ← Reader.federate
  let size ← nat 4
  let tag ← Reader.tag
  let payload ← Reader.payload size
  return ⟨port, federate, tag, payload⟩

/-- Takes an untimed message. -/
def untimedMessage : Reader UntimedMessage := do
  let port ← Reader.port
  let federate ← Reader.federate
  let size ← nat 4
  let payload ← Reader.payload size
  return ⟨port, federate, payload⟩

/-- Takes an absent notice. -/
def absentNotice : Reader AbsentNotice := do
  let port ← Reader.port
  let federate ← Reader.federate
  let tag ← Reader.tag
  return ⟨port, federate, tag⟩

/-- Takes the lists of neighbours. -/
def neighbors : Reader Neighbors := do
  let upstreamCount ← count
  let downstreamCount ← count
  let upstream ← times upstreamCount Reader.upstream
  let downstream ← times downstreamCount Reader.federate
  return ⟨upstream, downstream⟩

/-- Takes the fields of a frame of the given kind. -/
def fields : FrameKind → Reader Frame
  | .reject => do return .reject (.ofCode (← byte))
  | .ack => pure .ack
  | .joinFederation => do
    let federate ← Reader.federate
    let federation ← Reader.federation
    return .joinFederation federate federation
  | .joinPeer => do
    let federate ← Reader.federate
    let federation ← Reader.federation
    return .joinPeer federate federation
  | .clockSyncRequest => do return .clockSyncRequest (← word)
  | .clockSyncT1 => do return .clockSyncT1 (← instant)
  | .clockSyncT3 => do return .clockSyncT3 (← federate)
  | .clockSyncT4 => do return .clockSyncT4 (← instant)
  | .addressAdvertisement => do return .addressAdvertisement ((← widePort).getD 0)
  | .addressQuery => do return .addressQuery (← federate)
  | .addressQueryReply => do
    let port ← widePort
    let host ← Reader.host
    return .addressQueryReply port host
  | .untimedMessage => do return .untimedMessage (← untimedMessage)
  | .peerTaggedMessage => do return .peerTaggedMessage (← taggedMessage)
  | .taggedMessage => do return .taggedMessage (← taggedMessage)
  | .portAbsent => do return .portAbsent (← absentNotice)
  | .neighborStructure => do return .neighborStructure (← neighbors)
  | .resign => pure .resign

end Reader

namespace Frame

open Reader

/-- Takes one frame. -/
def reader : Reader Frame := do
  let code ← byte
  match FrameKind.ofCode? code with
  | some kind => fields kind
  | none => throw (.unknownType code)

/-- The first frame of a block of bytes; what follows it is ignored. -/
def decode (bytes : ByteArray) : Except FrameError Frame :=
  match reader { bytes } with
  | .ok f _ => .ok f
  | .error e _ => .error e

/-! ### What the reader of frames is made of -/

/-- All numbers are made of bytes that are taken. -/
theorem made_nat (n : Nat) : Made (nat n) := (Made.take n).map _

theorem made_int (n : Nat) : Made (int n) := (Made.take n).map _

theorem made_byte : Made byte := (made_nat 1).map _

theorem made_word : Made word := (made_nat 2).map _

theorem made_port : Made Reader.port := made_word.map _

theorem made_federate : Made federate := made_word.map _

theorem made_instant : Made instant := (made_int 8).map _

/-- A tag is an instant and a microstep. -/
theorem made_tag : Made Reader.tag :=
  made_instant.bind fun _ => (made_nat 4).bind fun _ => .pure _

/-- A payload that is too large is wrong, but no sign that the other side went
away. -/
theorem made_payload (n : Nat) : Made (Reader.payload n) := by
  unfold Reader.payload
  split
  · exact .take n
  · exact .throw _ rfl

/-- Neither is a count beyond the limit. -/
theorem made_count : Made Reader.count :=
  (made_int 4).bind fun n => by
    split
    · exact .pure _
    · exact .throw _ rfl

/-- Nor is an id that is no text. -/
theorem made_federation : Made federation :=
  (made_nat 1).bind fun n => (Made.take n).bind fun bytes => by
    split
    · exact .pure _
    · exact .throw _ rfl

theorem made_delay : Made Reader.delay := (made_int 8).bind fun _ => .pure _

/-- An upstream neighbour is a federate and its delay. -/
theorem made_upstream : Made upstream :=
  made_federate.bind fun _ => made_delay.bind fun _ => .pure _

theorem made_widePort : Made widePort := (made_int 4).bind fun _ => .pure _

theorem made_host : Made host := (Made.take 4).bind fun _ => .pure _

/-- The size stands in front of the tag, and the payload behind it. -/
theorem made_taggedMessage : Made Reader.taggedMessage :=
  made_port.bind fun _ => made_federate.bind fun _ => (made_nat 4).bind fun n =>
    made_tag.bind fun _ => (made_payload n).bind fun _ => .pure _

theorem made_untimedMessage : Made Reader.untimedMessage :=
  made_port.bind fun _ => made_federate.bind fun _ => (made_nat 4).bind fun n =>
    (made_payload n).bind fun _ => .pure _

theorem made_absentNotice : Made absentNotice :=
  made_port.bind fun _ => made_federate.bind fun _ => made_tag.bind fun _ => .pure _

/-- Both counts stand in front of both lists. -/
theorem made_neighbors : Made neighbors :=
  made_count.bind fun n => made_count.bind fun m =>
    (made_upstream.times n).bind fun _ =>
      (made_federate.times m).bind fun _ => .pure _

/-- A frame by which a federate introduces itself, whichever of the two it is. -/
theorem made_identity (k : FederateId → String → Frame) :
    Made (do let f ← federate; let s ← federation; return k f s) :=
  made_federate.bind fun _ => made_federation.bind fun _ => .pure _

/-- The fields of every kind of frame are made of these parts. -/
theorem made_fields (kind : FrameKind) : Made (fields kind) := by
  cases kind with
  | ack => exact .pure _
  | resign => exact .pure _
  | reject => exact made_byte.bind fun _ => .pure _
  | joinFederation => exact made_identity _
  | joinPeer => exact made_identity _
  | clockSyncRequest => exact made_word.bind fun _ => .pure _
  | clockSyncT1 => exact made_instant.bind fun _ => .pure _
  | clockSyncT3 => exact made_federate.bind fun _ => .pure _
  | clockSyncT4 => exact made_instant.bind fun _ => .pure _
  | addressAdvertisement => exact made_widePort.bind fun _ => .pure _
  | addressQuery => exact made_federate.bind fun _ => .pure _
  | addressQueryReply =>
    exact made_widePort.bind fun _ => made_host.bind fun _ => .pure _
  | untimedMessage => exact made_untimedMessage.bind fun _ => .pure _
  | peerTaggedMessage => exact made_taggedMessage.bind fun _ => .pure _
  | taggedMessage => exact made_taggedMessage.bind fun _ => .pure _
  | portAbsent => exact made_absentNotice.bind fun _ => .pure _
  | neighborStructure => exact made_neighbors.bind fun _ => .pure _

/-- A frame is a type byte and the fields of its kind; a byte without a kind is
wrong. -/
theorem made_reader : Made reader :=
  made_byte.bind fun code => by
    split
    · exact made_fields _
    · exact .throw _ rfl

/-- A successful read takes at least the type byte. -/
theorem lt_of_next {c c' : Cursor} {f : Frame} (h : reader c = .ok f c') :
    c'.remaining < c.remaining := by
  obtain ⟨code, c₁, h₁, h₂⟩ := bind_eq_ok h
  have h₃ :
      c₁.bytes = c.bytes ∧ c₁.position = c.position + 1 ∧ 1 ≤ c.remaining := by
    obtain ⟨n, c₂, h₄, h₅⟩ := bind_eq_ok h₁
    obtain ⟨b, c₃, h₆, h₇⟩ := bind_eq_ok h₄
    cases h₅
    cases h₇
    unfold take at h₆
    split at h₆
    · cases h₆
      exact ⟨rfl, rfl, by assumption⟩
    · cases h₆
  have h₄ : c₁.position ≤ c'.position ∧ c'.bytes = c₁.bytes := by
    rcases hk : FrameKind.ofCode? code with - | kind
    · rw [hk] at h₂
      cases h₂
    · rw [hk] at h₂
      obtain ⟨hb, -, hp, -⟩ := (made_fields kind).forward c₁ f c' h₂
      exact ⟨hp, hb⟩
  obtain ⟨hb, hp, hr⟩ := h₃
  obtain ⟨hle, hb'⟩ := h₄
  have : c'.bytes.size = c.bytes.size := by rw [hb', hb]
  unfold Cursor.remaining at hr ⊢
  omega

end Frame

end Federation
