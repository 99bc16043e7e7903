/-
Federation/Proofs/RoundTrip.lean

Frames there and back.

A frame has an encoding exactly if it keeps to the limits (`encode_ok_iff`). Of
the encoding, wherever it stands, a reader takes all bytes and no more, and
makes `readBack` of the frame (`takes_reader`):

* of a reason without a name that has the byte of a name, the reason with the name;
* of a delay that is the least 64-bit number, no delay;
* of a federation id that was cut off, what is left of it, if that is text at all.

All other frames come back as they were, so the frames that survive are the
`Representable` ones (`readBack_eq_iff`). As the reader stops where the encoding
ends, a stream of encodings is read frame by frame (`frames_between`).
-/
import Mathlib
import Federation.Frame.Source
import Federation.Proofs.Takes

namespace Federation

open LittleEndian

/-! ### What survives -/

/-- The delay that is read where `delay` was written. -/
def Delay.readBack (delay : Delay) : Delay :=
  if delay.map Interval.ns = some Frame.noDelay then none else delay

namespace Frame

/-- Whether the frame keeps to the limits for payloads and lists of neighbours. -/
def WithinLimits : Frame → Prop
  | untimedMessage m => m.payload.size ≤ maxPayload
  | peerTaggedMessage m => m.payload.size ≤ maxPayload
  | taggedMessage m => m.payload.size ≤ maxPayload
  | neighborStructure n =>
    n.upstream.length ≤ maxNeighbors ∧ n.downstream.length ≤ maxNeighbors
  | _ => True

/-- Whether the frame has a form on the wire that is no other frame's. -/
def Representable : Frame → Prop
  | reject reason => ∀ code, reason = .other code → ¬ (1 ≤ code ∧ code ≤ 5)
  | joinFederation _ federation => federation.toByteArray.size ≤ maxFederationId
  | joinPeer _ federation => federation.toByteArray.size ≤ maxFederationId
  | neighborStructure n =>
    ∀ entry ∈ n.upstream, entry.2.map Interval.ns ≠ some noDelay
  | _ => True

/-- The federation id that is read where `federation` was written. -/
def readFederation (federation : String) : Except FrameError String :=
  match String.fromUTF8? (federationBytes federation) with
  | some s => .ok s
  | none => .error .invalidFederationId

/-- What is read where the frame was written. -/
def readBack : Frame → Except FrameError Frame
  | reject reason => .ok (.reject (.ofCode reason.code))
  | joinFederation federate federation =>
    (readFederation federation).map (.joinFederation federate)
  | joinPeer federate federation =>
    (readFederation federation).map (.joinPeer federate)
  | neighborStructure n =>
    .ok (.neighborStructure
      ⟨n.upstream.map fun entry => (entry.1, entry.2.readBack), n.downstream⟩)
  | f => .ok f

end Frame

/-! ### The fields of a frame -/

namespace Reader

theorem takes_payload {payload : ByteArray} (h : payload.size ≤ Frame.maxPayload) :
    Takes (Reader.payload payload.size) payload (.ok payload) := by
  rw [Reader.payload, if_pos h]
  exact takes_take payload

theorem takes_size {payload : ByteArray} (h : payload.size ≤ Frame.maxPayload) :
    Takes (nat 4) (encode 4 payload.size) (.ok payload.size) :=
  takes_nat (Nat.lt_of_le_of_lt h (by decide))

theorem takes_count {n : Nat} (h : n ≤ Frame.maxNeighbors) :
    Takes Reader.count (encodeInt 4 n) (.ok n) := by
  have hle : n ≤ 65536 := h
  have hcapacity := capacity_four
  rw [Reader.count, ← ByteArray.append_empty (b := encodeInt 4 n)]
  refine (takes_int (by omega) (by omega)).bind ?_
  rw [if_pos ⟨Int.natCast_nonneg n, Int.ofNat_le.mpr h⟩, Int.toNat_natCast]
  exact takes_pure n

theorem takes_delay (delay : Delay) :
    Takes Reader.delay (encodeInt 8 ((delay.map Interval.ns).getD Frame.noDelay))
      (.ok delay.readBack) := by
  have hrange : Nanos.InRange ((delay.map Interval.ns).getD Frame.noDelay) := by
    cases delay with
    | none => decide
    | some d => exact d.inRange
  have hvalue : (if (delay.map Interval.ns).getD Frame.noDelay
      = -9223372036854775808 then none
      else some (Interval.clamp ((delay.map Interval.ns).getD Frame.noDelay)))
        = delay.readBack := by
    cases delay with
    | none => rfl
    | some d =>
      have hclamp : Interval.clamp d.ns = d :=
        Interval.ext (Nanos.clamp_of_inRange d.inRange)
      simp only [Option.map_some, Option.getD_some, Delay.readBack,
        Option.some.injEq, hclamp, Frame.noDelay]
  rw [← hvalue]
  exact (takes_long hrange).bind_pure _

theorem takes_upstream (entry : FederateId × Delay) :
    Takes Reader.upstream (Frame.encodeUpstream entry)
      (.ok (entry.1, entry.2.readBack)) :=
  (takes_federate entry.1).bind ((takes_delay entry.2).bind_pure _)

/-- A federation id is taken whole, and then it is text or it is not. -/
theorem takes_federation (federation : String) :
    Takes Reader.federation
      (encode 1 (Frame.federationBytes federation).size ++
        Frame.federationBytes federation)
      (Frame.readFederation federation) := by
  have hsize : (Frame.federationBytes federation).size < capacity 1 := by
    rw [Frame.federationBytes, ByteArray.size_extract]
    exact Nat.lt_of_le_of_lt (Nat.sub_le_of_le_add (Nat.min_le_left _ _))
      (by decide)
  have hend :
      Takes Reader.federation (encode 1 (Frame.federationBytes federation).size ++
        (Frame.federationBytes federation ++ .empty))
      (Frame.readFederation federation) := by
    refine (takes_nat hsize).bind ?_
    refine (takes_take _).bind ?_
    rw [Frame.readFederation]
    cases String.fromUTF8? (Frame.federationBytes federation) with
    | none => exact takes_throw _
    | some s => exact takes_pure s
  rwa [ByteArray.append_empty] at hend

theorem takes_identity (federate : FederateId) (federation : String)
    (k : FederateId → String → Frame) :
    Takes (do let f ← Reader.federate; let s ← Reader.federation; return k f s)
      (Frame.encodeIdentity federate federation)
      ((Frame.readFederation federation).map (k federate)) := by
  rw [Frame.encodeIdentity, ByteArray.append_assoc]
  refine (takes_federate federate).bind ?_
  intro before after ending
  have hread := takes_federation federation before after ending
  cases hfederation : Frame.readFederation federation with
  | ok s =>
    rw [hfederation] at hread
    exact bind_of_ok hread
  | error e =>
    rw [hfederation] at hread
    exact bind_of_error hread

theorem takes_taggedMessage {m : TaggedMessage}
    (h : m.payload.size ≤ Frame.maxPayload) :
    Takes Reader.taggedMessage (Frame.encodeTagged m) (.ok m) := by
  simp only [Frame.encodeTagged, ByteArray.append_assoc]
  refine (takes_port m.port).bind ?_
  refine (takes_federate m.federate).bind ?_
  refine (takes_size h).bind ?_
  refine (takes_tag m.tag).bind ?_
  exact (takes_payload h).bind_pure _

theorem takes_untimedMessage {m : UntimedMessage}
    (h : m.payload.size ≤ Frame.maxPayload) :
    Takes Reader.untimedMessage
      (encode 2 m.port.number.toNat ++ encode 2 m.federate.number.toNat ++
      encode 4 m.payload.size ++ m.payload) (.ok m) := by
  simp only [ByteArray.append_assoc]
  refine (takes_port m.port).bind ?_
  refine (takes_federate m.federate).bind ?_
  refine (takes_size h).bind ?_
  exact (takes_payload h).bind_pure _

theorem takes_absentNotice (notice : AbsentNotice) :
    Takes Reader.absentNotice (encode 2 notice.port.number.toNat ++
      encode 2 notice.federate.number.toNat ++ Frame.encodeTag notice.tag)
        (.ok notice) := by
  rw [ByteArray.append_assoc]
  refine (takes_port notice.port).bind ?_
  refine (takes_federate notice.federate).bind ?_
  exact (takes_tag notice.tag).bind_pure _

theorem takes_neighbors {n : Neighbors}
    (hup : n.upstream.length ≤ Frame.maxNeighbors)
    (hdown : n.downstream.length ≤ Frame.maxNeighbors) :
    Takes Reader.neighbors
      (encodeInt 4 n.upstream.length ++ encodeInt 4 n.downstream.length ++
        Bytes.concat (n.upstream.map Frame.encodeUpstream) ++
        Bytes.concat (n.downstream.map fun f => encode 2 f.number.toNat))
      (.ok ⟨n.upstream.map fun entry => (entry.1, entry.2.readBack),
        n.downstream⟩) := by
  have hdownstream := takes_times takes_federate n.downstream
  rw [List.map_id'] at hdownstream
  simp only [ByteArray.append_assoc]
  refine (takes_count hup).bind ?_
  refine (takes_count hdown).bind ?_
  refine (takes_times takes_upstream n.upstream).bind ?_
  exact hdownstream.bind_pure _

theorem takes_widePort (port : Option UInt16) :
    Takes Reader.widePort
      (encodeInt 4 ((port.map fun p => (p.toNat : Int)).getD (-1)))
      (.ok port) := by
  rw [Reader.widePort, ← ByteArray.append_empty (b := encodeInt 4 _)]
  cases port with
  | none => exact (takes_int (by decide) (by decide)).bind (takes_pure none)
  | some p =>
    have hlt : p.toNat < 65536 := p.toNat_lt
    have hcapacity := capacity_four
    simp only [Option.map_some, Option.getD_some]
    refine (takes_int (by omega) (by omega)).bind ?_
    rw [if_pos ⟨Int.natCast_nonneg _, by omega⟩, Int.toNat_natCast,
      UInt16.ofNat_toNat]
    exact takes_pure (some p)

theorem takes_host (host : HostAddress) :
    Takes Reader.host [host.a, host.b, host.c, host.d].toByteArray (.ok host) := by
  have htake := takes_take [host.a, host.b, host.c, host.d].toByteArray
  rw [List.size_toByteArray] at htake
  rw [Reader.host, ← ByteArray.append_empty (b := List.toByteArray _)]
  refine htake.bind ?_
  rw [List.data_toByteArray]
  exact takes_pure host

end Reader

/-! ### One frame -/

namespace Frame

open Reader

theorem checkPayload_ok_iff {payload : ByteArray} :
    checkPayload payload = .ok () ↔ payload.size ≤ maxPayload := by
  unfold checkPayload
  split <;> simp_all

theorem checkCount_ok_iff {n : Nat} : checkCount n = .ok () ↔ n ≤ maxNeighbors := by
  unfold checkCount
  split <;> simp_all

theorem checkLimits_ok_iff {f : Frame} :
    f.checkLimits = .ok () ↔ f.WithinLimits := by
  cases f with
  | untimedMessage m => exact checkPayload_ok_iff
  | peerTaggedMessage m => exact checkPayload_ok_iff
  | taggedMessage m => exact checkPayload_ok_iff
  | neighborStructure n =>
    rw [WithinLimits, ← checkCount_ok_iff, ← checkCount_ok_iff, checkLimits]
    rcases checkCount n.upstream.length with e | u
    · constructor
      · intro h
        cases h
      · rintro ⟨h, -⟩
        cases h
    · exact ⟨fun h => ⟨rfl, h⟩, fun h => h.2⟩
  | _ => exact ⟨fun _ => trivial, fun _ => rfl⟩

/-- A frame has an encoding exactly if it keeps to the limits. -/
theorem encode_ok_iff {f : Frame} {b : ByteArray} :
    f.encode = .ok b ↔
      f.WithinLimits ∧
        b = LittleEndian.encode 1 f.kind.code.toNat ++ f.encodeFields := by
  rw [← checkLimits_ok_iff, encode]
  rcases f.checkLimits with e | u
  · constructor
    · intro h
      cases h
    · rintro ⟨h, -⟩
      cases h
  · constructor
    · intro h
      cases h
      exact ⟨rfl, rfl⟩
    · rintro ⟨-, rfl⟩
      rfl

theorem takes_fields {f : Frame} (h : f.WithinLimits) :
    Takes (Reader.fields f.kind) f.encodeFields f.readBack := by
  cases f with
  -- the fields are read in the order in which they are written
  | reject reason => exact (takes_byte reason.code).bind_pure _
  | ack => exact takes_pure _
  | joinFederation federate federation =>
    exact takes_identity federate federation joinFederation
  | joinPeer federate federation =>
    exact takes_identity federate federation joinPeer
  | clockSyncRequest exchanges => exact (takes_word exchanges).bind_pure _
  | clockSyncT1 time => exact (takes_instant time).bind_pure _
  | clockSyncT3 federate => exact (takes_federate federate).bind_pure _
  | clockSyncT4 time => exact (takes_instant time).bind_pure _
  | addressAdvertisement port => exact (takes_widePort (some port)).bind_pure _
  | addressQuery federate => exact (takes_federate federate).bind_pure _
  | addressQueryReply port host =>
    exact (takes_widePort port).bind ((takes_host host).bind_pure _)
  | untimedMessage m => exact (takes_untimedMessage h).bind_pure _
  | peerTaggedMessage m => exact (takes_taggedMessage h).bind_pure _
  | taggedMessage m => exact (takes_taggedMessage h).bind_pure _
  | portAbsent notice => exact (takes_absentNotice notice).bind_pure _
  | neighborStructure n => exact (takes_neighbors h.1 h.2).bind_pure _
  | resign => exact takes_pure _

/-- Of an encoding a reader takes all bytes, and no more. -/
theorem takes_reader {f : Frame} {b : ByteArray} (h : f.encode = .ok b) :
    Takes reader b f.readBack := by
  obtain ⟨hlimits, rfl⟩ := encode_ok_iff.mp h
  refine (takes_byte f.kind.code).bind ?_
  rw [FrameKind.ofCode?_code]
  exact takes_fields hlimits

/-! ### The frames that come back as they were -/

theorem ofCode_code_eq_iff {reason : RejectReason} :
    RejectReason.ofCode reason.code = reason ↔
      ∀ code, reason = .other code → ¬ (1 ≤ code ∧ code ≤ 5) := by
  cases reason with
  | other code =>
    simp only [RejectReason.code, RejectReason.other.injEq, forall_eq']
    unfold RejectReason.ofCode
    split <;> grind
  | _ => simp [RejectReason.code, RejectReason.ofCode]

theorem readDelay_eq_iff {delay : Delay} :
    delay.readBack = delay ↔ delay.map Interval.ns ≠ some noDelay := by
  rw [Delay.readBack]
  cases delay with
  | none => simp
  | some d => by_cases h : d.ns = noDelay <;> simp [h]

/-- A federation id that keeps to the limit is carried whole. -/
theorem federationBytes_of_le {federation : String}
    (h : federation.toByteArray.size ≤ maxFederationId) :
    federationBytes federation = federation.toByteArray := by
  rw [federationBytes, ← Nat.max_eq_left h, ByteArray.extract_zero_max_size]

theorem readFederation_eq_iff {federation : String} :
    readFederation federation = .ok federation ↔
      federation.toByteArray.size ≤ maxFederationId := by
  have hsize : (federationBytes federation).size
      = min maxFederationId federation.toByteArray.size := by
    rw [federationBytes, ByteArray.size_extract, Nat.sub_zero]
  constructor
  · intro h
    -- what was read is what was left of the id, so nothing was cut off
    unfold readFederation at h
    split at h
    · next s hs =>
      cases h
      rw [toByteArray_of_fromUTF8? hs] at hsize ⊢
      omega
    · cases h
  · intro h
    rw [readFederation, federationBytes_of_le h, fromUTF8?_toByteArray]

/-- The frames that come back as they were are the representable ones. -/
theorem readBack_eq_iff {f : Frame} : f.readBack = .ok f ↔ f.Representable := by
  -- both frames that hold a federation id lose it, or keep it, alike
  have hidentity : ∀ (k : String → Frame) (federation : String),
      Function.Injective k →
        ((readFederation federation).map k = .ok (k federation) ↔
          federation.toByteArray.size ≤ maxFederationId) := by
    intro k federation hk
    rw [← readFederation_eq_iff]
    rcases readFederation federation with e | s
    · constructor <;> intro h <;> cases h
    · simp [Except.map, hk.eq_iff]
  cases f with
  | reject reason =>
    rw [Representable, ← ofCode_code_eq_iff, readBack, Except.ok.injEq,
      reject.injEq]
  | joinFederation federate federation =>
    exact hidentity (joinFederation federate) federation fun a b h => by
      simpa using h
  | joinPeer federate federation =>
    exact hidentity (joinPeer federate) federation fun a b h => by simpa using h
  | neighborStructure n =>
    have hmap : n.upstream.map (fun entry => (entry.1, entry.2.readBack))
        = n.upstream ↔
        ∀ entry ∈ n.upstream, entry.2.map Interval.ns ≠ some noDelay := by
      conv_lhs => rw [← List.map_id n.upstream, List.map_map, List.map_inj_left]
      simp only [Function.comp_apply, id_eq, ← readDelay_eq_iff,
        Prod.ext_iff, true_and]
    rw [Representable, ← hmap]
    simp [readBack, Neighbors.ext_iff]
  | _ => exact ⟨fun _ => trivial, fun _ => rfl⟩

/-- A block that holds the encoding of a representable frame is decoded to it. -/
theorem decode_encode {f : Frame} {b : ByteArray} (h : f.encode = .ok b)
    (hrep : f.Representable) :
    decode b = .ok f := by
  have hread := takes_reader h .empty .empty .endOfInput
  rw [ByteArray.append_empty, Cursor.between_empty, readBack_eq_iff.mpr hrep]
    at hread
  rw [decode, hread]
  rfl

/-- A representable frame within the limits comes through. -/
theorem exists_decode_encode {f : Frame} (hlimits : f.WithinLimits)
    (hrep : f.Representable) :
    ∃ b, f.encode = .ok b ∧ decode b = .ok f := by
  have hencode := encode_ok_iff.mpr ⟨hlimits, rfl⟩
  exact ⟨_, hencode, decode_encode hencode hrep⟩

end Frame

/-! ### A stream of frames -/

namespace Cursor

theorem frames_of_next_ok {c c' : Cursor} {f : Frame} (h : c.next = (.ok f, c')) :
    c.frames = { c'.frames with frames := f :: c'.frames.frames } := by
  rw [frames]
  split
  · next h' =>
    cases h.symm.trans h'
    rfl
  · next h' => cases h.symm.trans h'

theorem frames_of_next_error {c c' : Cursor} {e : FrameError}
    (h : c.next = (.error e, c')) :
    c.frames = ⟨[], e⟩ := by
  rw [frames]
  split
  · next h' => cases h.symm.trans h'
  · next h' =>
    cases h.symm.trans h'
    rfl

/-- Behind the last frame a read meets the end. -/
theorem next_between_empty (before : ByteArray) (ending : IoError) :
    ∃ c, (between before .empty ending).next = (.error (.io ending), c) := by
  have htake :=
    Reader.take_of_remaining_lt (n := 1) (c := between before .empty ending) (by
    rw [remaining_between]
    exact Nat.zero_lt_one)
  have hbyte :=
    Reader.map_of_error UInt8.ofNat (Reader.map_of_error LittleEndian.decode htake)
  have hreader : Frame.reader (between before .empty ending) = _ :=
    Reader.bind_of_error hbyte
  rw [next, hreader]
  exact ⟨_, rfl⟩

/-- Encodings one after another are read one after another, up to the end. -/
theorem frames_between {frames : List Frame} {blocks : List ByteArray}
    (h : List.Forall₂ (fun f b => f.encode = .ok b) frames blocks)
    (hrep : ∀ f ∈ frames, f.Representable) (before : ByteArray) (ending : IoError) :
    (between before (Bytes.concat blocks) ending).frames
      = ⟨frames, .io ending⟩ := by
  induction h generalizing before with
  | nil =>
    obtain ⟨c, hc⟩ := next_between_empty before ending
    exact frames_of_next_error hc
  | @cons f b frames blocks hf _ ih =>
    -- the reader stops where the next encoding begins
    have hback := Frame.readBack_eq_iff.mpr (hrep f List.mem_cons_self)
    have hread := Frame.takes_reader hf before (Bytes.concat blocks) ending
    rw [hback, ← Bytes.concat_cons] at hread
    have hnext : (between before (Bytes.concat (b :: blocks)) ending).next
        = (.ok f, between (before ++ b) (Bytes.concat blocks) ending) := by
      rw [next, hread]
      rfl
    rw [frames_of_next_ok hnext,
      ih (fun g hg => hrep g (List.mem_cons_of_mem f hg))]

end Cursor

/-- **Frames there and back.** A frame has an encoding exactly if it keeps to
the limits. Reading the encoding with anything behind it gives the same frame
and leaves exactly what is behind it, if and only if the frame is representable.
So a stream of encodings of representable frames is read as these frames, and
then the other side has gone away. -/
theorem frame_round_trip :
    (∀ f : Frame, (∃ b, f.encode = .ok b) ↔ f.WithinLimits) ∧
    (∀ (f : Frame) (b rest : ByteArray), f.encode = .ok b →
      ((∃ c, Frame.reader { bytes := b ++ rest } = .ok f c ∧ c.rest = rest) ↔
        f.Representable)) ∧
    (∀ (frames : List Frame) (blocks : List ByteArray),
      List.Forall₂ (fun f b => f.encode = .ok b) frames blocks →
      (∀ f ∈ frames, f.Representable) →
      Cursor.frames { bytes := Bytes.concat blocks } = ⟨frames, .io .endOfInput⟩ ∧
        (FrameError.io .endOfInput).isDisconnect = true) := by
  refine ⟨fun f => ?_, fun f b rest h => ?_, fun frames blocks h hrep => ⟨?_, rfl⟩⟩
  · constructor
    · rintro ⟨b, hb⟩
      exact (Frame.encode_ok_iff.mp hb).1
    · intro h
      exact ⟨_, Frame.encode_ok_iff.mpr ⟨h, rfl⟩⟩
  · have hread := Frame.takes_reader h .empty rest .endOfInput
    rw [Cursor.between_empty] at hread
    rw [hread, ← Frame.readBack_eq_iff]
    constructor
    · rintro ⟨c, hc, -⟩
      -- what is read is the frame read back, so that is the frame itself
      rcases hback : f.readBack with e | g
      · rw [hback] at hc
        cases hc
      · rw [hback] at hc
        cases hc
        rfl
    · intro hback
      rw [hback]
      exact ⟨_, rfl, Cursor.rest_between _ _ _⟩
  · rw [← Cursor.between_empty]
    exact Cursor.frames_between h hrep .empty .endOfInput

theorem frame_round_trip_join_ack :
    ∃ join ack,
      (Frame.joinFederation ⟨3⟩ "fed").encode = .ok join ∧
      Frame.ack.encode = .ok ack ∧
      Cursor.frames { bytes := Bytes.concat [join, ack] }
        = ⟨[.joinFederation ⟨3⟩ "fed", .ack], .io .endOfInput⟩ :=
  ⟨_, _, rfl, rfl, (frame_round_trip.2.2 [.joinFederation ⟨3⟩ "fed", .ack] _
    (.cons rfl (.cons rfl .nil)) (by simp [Frame.Representable]; decide)).1⟩

end Federation
