/-
Federation/Proofs/Canonical.lean

Every frame has one spelling.

What `Frame.reader` accepts is what `Frame.encode` writes, so whoever has read a
frame can send it on, and the other side reads the same frame. The one exception
are the two kinds of frames with a port of four bytes: all ports out of range
are read alike, and one of them is written for all (`FrameKind.standIn?`). The
encoding with this one in the place of any other is the `canonical` one, and the
main result is that a frame that was read is encoded to the canonical form of
the bytes that it was read from.

The fields are gone through once, each with the bytes that its reader can have
taken (`OnlyTakes`). What has to come out for a frame as a whole is `Spelled`:
apart from the spelling, that the frame keeps to the limits of the encoder and
that it is no frame of which something is lost on the wire.
-/
import Mathlib
import Federation.Proofs.OnlyTakes
import Federation.Proofs.RoundTrip

namespace Federation

open LittleEndian

/-! ### The canonical spelling -/

/-- The port that is written for all ports out of range, if frames of the kind
have a port of four bytes. -/
def FrameKind.standIn? : FrameKind → Option Int
  | .addressAdvertisement => some 0
  | .addressQueryReply => some (-1)
  | _ => none

namespace Frame

/-- The port that the canonical spelling has in the place of the one behind the
type byte, if that is a port and out of range. -/
def standIn? (b : ByteArray) : Option Int :=
  let port := decodeInt (b.extract 1 5)
  if 0 ≤ port ∧ port < 65536 then none
  else (FrameKind.ofCode? (UInt8.ofNat (LittleEndian.decode (b.extract 0 1)))).bind
    (·.standIn?)

/-- The spelling of a frame in which a port out of range is the one that is
written for all of them. -/
def canonical (b : ByteArray) : ByteArray :=
  match standIn? b with
  | none => b
  | some port => b.extract 0 1 ++ encodeInt 4 port ++ b.extract 5 b.size

/-- Whether there is a place where a reader takes exactly these bytes for the
frame. -/
def Reads (b : ByteArray) (f : Frame) : Prop :=
  ∃ before rest ending,
    reader (.between before (b ++ rest) ending)
      = .ok f (.between (before ++ b) rest ending)

theorem extract_code (code : UInt8) (b : ByteArray) :
    (LittleEndian.encode 1 code.toNat ++ b).extract 0 1
      = LittleEndian.encode 1 code.toNat :=
  ByteArray.extract_append_eq_left (size_encode 1 _).symm

theorem kind_of_code (kind : FrameKind) (b : ByteArray) :
    FrameKind.ofCode? (UInt8.ofNat (LittleEndian.decode
      ((LittleEndian.encode 1 kind.code.toNat ++ b).extract 0 1))) = some kind := by
  rw [extract_code, LittleEndian.decode_encode kind.code.toNat_lt,
    UInt8.ofNat_toNat, FrameKind.ofCode?_code]

/-- A frame without a port of four bytes is spelled canonically. -/
theorem canonical_of_standIn?_none {kind : FrameKind} (h : kind.standIn? = none)
    (b : ByteArray) :
    canonical (LittleEndian.encode 1 kind.code.toNat ++ b)
      = LittleEndian.encode 1 kind.code.toNat ++ b := by
  have hnone : standIn? (LittleEndian.encode 1 kind.code.toNat ++ b) = none := by
    rw [standIn?, kind_of_code, Option.bind_some, h, ite_self]
  rw [canonical, hnone]

/-- A port out of range gives way to the one that is written for all of them. -/
theorem canonical_of_standIn?_some (kind : FrameKind) {standIn port : Int}
    (h : kind.standIn? = some standIn) (hlo : -(capacity 4 : Int) ≤ 2 * port)
    (hhi : 2 * port < (capacity 4 : Int)) (b : ByteArray) :
    canonical (LittleEndian.encode 1 kind.code.toNat ++ (encodeInt 4 port ++ b))
      = LittleEndian.encode 1 kind.code.toNat ++
          (encodeInt 4 (if 0 ≤ port ∧ port < 65536 then port else standIn) ++
            b) := by
  have hfield :
      (LittleEndian.encode 1 kind.code.toNat ++ (encodeInt 4 port ++ b)).extract 1 5
      = encodeInt 4 port := by
    have hcode := ByteArray.extract_append_size_add
      (a := LittleEndian.encode 1 kind.code.toNat) (b := encodeInt 4 port ++ b)
      (i := 0) (j := 4)
    rw [size_encode] at hcode
    rw [hcode, ByteArray.extract_append_eq_left (size_encodeInt 4 port).symm]
  have htail :
      (LittleEndian.encode 1 kind.code.toNat ++ (encodeInt 4 port ++ b)).extract
      5 (LittleEndian.encode 1 kind.code.toNat ++ (encodeInt 4 port ++ b)).size
      = b := by
    rw [← ByteArray.append_assoc, ByteArray.extract_append_eq_right]
    · rw [ByteArray.size_append, size_encode, size_encodeInt]
    · rw [ByteArray.size_append]
  have hstandIn :
      standIn? (LittleEndian.encode 1 kind.code.toNat ++ (encodeInt 4 port ++ b))
      = if 0 ≤ port ∧ port < 65536 then none else some standIn := by
    rw [standIn?, kind_of_code, Option.bind_some, h, hfield,
      decodeInt_encodeInt hlo hhi]
  rw [canonical, hstandIn]
  split_ifs with hport
  · rfl
  · dsimp only
    rw [extract_code, htail, ByteArray.append_assoc]

end Frame

/-! ### The fields of a frame -/

namespace Reader

theorem onlyTakes_payload (size : Nat) :
    OnlyTakes (Reader.payload size) fun p b =>
      b = p ∧ p.size = size ∧ p.size ≤ Frame.maxPayload := by
  unfold Reader.payload
  split
  · next hsize =>
    refine (onlyTakes_take size).mono ?_
    rintro p b ⟨rfl, rfl⟩
    exact ⟨rfl, rfl, hsize⟩
  · exact onlyTakes_throw _

theorem onlyTakes_count :
    OnlyTakes Reader.count fun n b =>
      b = encodeInt 4 n ∧ n ≤ Frame.maxNeighbors := by
  refine (onlyTakes_int 4).bind ?_
  rintro n b ⟨rfl, -, -⟩
  split
  · next hn =>
    refine onlyTakes_pure ⟨?_, by omega⟩
    rw [ByteArray.append_empty, Int.toNat_of_nonneg hn.1]
  · exact onlyTakes_throw _

theorem onlyTakes_federation :
    OnlyTakes Reader.federation fun s b =>
      b = encode 1 (Frame.federationBytes s).size ++ Frame.federationBytes s ∧
        s.toByteArray.size ≤ Frame.maxFederationId := by
  refine (onlyTakes_nat 1).bind ?_
  rintro size b ⟨rfl, hsize⟩
  refine (onlyTakes_take size).bind ?_
  rintro bytes b ⟨rfl, rfl⟩
  split
  · next s hs =>
    obtain rfl := toByteArray_of_fromUTF8? hs
    have hle : s.toByteArray.size ≤ Frame.maxFederationId := Nat.le_of_lt_succ hsize
    refine onlyTakes_pure ⟨?_, hle⟩
    rw [ByteArray.append_empty, Frame.federationBytes_of_le hle]
  · exact onlyTakes_throw _

/-- Both frames that hold a federation id are a federate and the id. -/
theorem onlyTakes_identity {k : FederateId → String → Frame}
    {P : Frame → ByteArray → Prop}
    (h : ∀ f s, s.toByteArray.size ≤ Frame.maxFederationId →
      P (k f s) (Frame.encodeIdentity f s)) :
    OnlyTakes
      (do let f ← Reader.federate; let s ← Reader.federation; return k f s) P := by
  refine onlyTakes_federate.bind ?_
  rintro f b rfl
  refine onlyTakes_federation.bind_pure ?_
  rintro s b ⟨rfl, hs⟩
  rw [← ByteArray.append_assoc]
  exact h f s hs

theorem onlyTakes_delay :
    OnlyTakes Reader.delay fun d b =>
      b = encodeInt 8 ((d.map Interval.ns).getD Frame.noDelay) ∧
        d.map Interval.ns ≠ some Frame.noDelay := by
  refine onlyTakes_long.bind_pure ?_
  rintro n b ⟨rfl, hn⟩
  split
  · next hnone => exact ⟨congrArg (encodeInt 8) hnone, nofun⟩
  · next hsome =>
    have hclamp : (Interval.clamp n).ns = n := Nanos.clamp_of_inRange hn
    rw [Option.map_some, hclamp]
    exact ⟨rfl, fun h => hsome (Option.some.inj h)⟩

theorem onlyTakes_upstream :
    OnlyTakes Reader.upstream fun entry b =>
      b = Frame.encodeUpstream entry ∧
        entry.2.map Interval.ns ≠ some Frame.noDelay := by
  refine onlyTakes_federate.bind ?_
  rintro f b rfl
  refine onlyTakes_delay.bind_pure ?_
  rintro d b ⟨rfl, hd⟩
  exact ⟨rfl, hd⟩

theorem onlyTakes_neighbors :
    OnlyTakes Reader.neighbors fun n b =>
      b = (Frame.neighborStructure n).encodeFields ∧
        (Frame.neighborStructure n).WithinLimits ∧
          (Frame.neighborStructure n).Representable := by
  refine onlyTakes_count.bind ?_
  rintro upstreamCount b ⟨rfl, hup⟩
  refine onlyTakes_count.bind ?_
  rintro downstreamCount b ⟨rfl, hdown⟩
  refine (onlyTakes_times onlyTakes_upstream upstreamCount).bind ?_
  rintro upstream b ⟨rfl, rfl, hentries⟩
  refine (onlyTakes_times (p := fun _ => True)
    (onlyTakes_federate.mono fun f b h => ⟨h, trivial⟩) downstreamCount).bind_pure
    ?_
  rintro downstream b ⟨rfl, rfl, -⟩
  refine ⟨?_, ⟨hup, hdown⟩, hentries⟩
  rw [Frame.encodeFields]
  simp only [ByteArray.append_assoc]

theorem onlyTakes_taggedMessage :
    OnlyTakes Reader.taggedMessage fun m b =>
      b = Frame.encodeTagged m ∧ m.payload.size ≤ Frame.maxPayload := by
  refine onlyTakes_port.bind ?_
  rintro port b rfl
  refine onlyTakes_federate.bind ?_
  rintro federate b rfl
  refine (onlyTakes_nat 4).bind ?_
  rintro size b ⟨rfl, -⟩
  refine onlyTakes_tag.bind ?_
  rintro tag b rfl
  refine (onlyTakes_payload size).bind_pure ?_
  rintro payload b ⟨rfl, rfl, hsize⟩
  refine ⟨?_, hsize⟩
  simp only [Frame.encodeTagged, ByteArray.append_assoc]

theorem onlyTakes_untimedMessage :
    OnlyTakes Reader.untimedMessage fun m b =>
      b = (Frame.untimedMessage m).encodeFields ∧
        m.payload.size ≤ Frame.maxPayload := by
  refine onlyTakes_port.bind ?_
  rintro port b rfl
  refine onlyTakes_federate.bind ?_
  rintro federate b rfl
  refine (onlyTakes_nat 4).bind ?_
  rintro size b ⟨rfl, -⟩
  refine (onlyTakes_payload size).bind_pure ?_
  rintro payload b ⟨rfl, rfl, hsize⟩
  refine ⟨?_, hsize⟩
  simp only [Frame.encodeFields, ByteArray.append_assoc]

theorem onlyTakes_absentNotice :
    OnlyTakes Reader.absentNotice fun n b =>
      b = (Frame.portAbsent n).encodeFields := by
  refine onlyTakes_port.bind ?_
  rintro port b rfl
  refine onlyTakes_federate.bind ?_
  rintro federate b rfl
  refine onlyTakes_tag.bind_pure ?_
  rintro tag b rfl
  simp only [Frame.encodeFields, ByteArray.append_assoc]

/-- Of a port of four bytes only a port in range can be told from the bytes. -/
theorem onlyTakes_widePort :
    OnlyTakes Reader.widePort fun port b => ∃ n, b = encodeInt 4 n ∧
      -(capacity 4 : Int) ≤ 2 * n ∧ 2 * n < (capacity 4 : Int) ∧
      port = if 0 ≤ n ∧ n < 65536 then some (UInt16.ofNat n.toNat) else none := by
  refine (onlyTakes_int 4).bind_pure ?_
  rintro n b ⟨rfl, hlo, hhi⟩
  exact ⟨n, rfl, hlo, hhi, rfl⟩

theorem onlyTakes_host :
    OnlyTakes Reader.host fun h b => b = [h.a, h.b, h.c, h.d].toByteArray := by
  refine (onlyTakes_take 4).bind_pure ?_
  rintro bytes b ⟨rfl, hsize⟩
  obtain ⟨⟨l⟩⟩ := b
  have hlength : l.length = 4 := hsize
  obtain ⟨a, b, c, d, rfl⟩ := List.length_eq_four.mp hlength
  apply ByteArray.ext
  rw [List.data_toByteArray]

end Reader

/-! ### One frame -/

namespace Frame

open Reader

/-- What is known of a frame that was read, and of the bytes that its fields
were read from. -/
structure Spelled (kind : FrameKind) (f : Frame) (b : ByteArray) : Prop where
  kind_eq : f.kind = kind
  withinLimits : f.WithinLimits
  representable : f.Representable
  canonical : canonical (LittleEndian.encode 1 kind.code.toNat ++ b)
    = LittleEndian.encode 1 kind.code.toNat ++ f.encodeFields

/-- A frame without a port of four bytes has one spelling only. -/
theorem spelled_fields {f : Frame} (hkind : f.kind.standIn? = none)
    (hlimits : f.WithinLimits) (hrep : f.Representable) :
    Spelled f.kind f f.encodeFields :=
  ⟨rfl, hlimits, hrep, canonical_of_standIn?_none hkind _⟩

theorem toNat_of_port {n : Int} (h : 0 ≤ n ∧ n < 65536) :
    ((UInt16.ofNat n.toNat).toNat : Int) = n := by
  rw [UInt16.toNat_ofNat_of_lt' (show n.toNat < 65536 by omega),
    Int.toNat_of_nonneg h.1]

theorem code_ofCode (code : UInt8) : (RejectReason.ofCode code).code = code := by
  unfold RejectReason.ofCode
  split <;> rfl

theorem onlyTakes_fields (kind : FrameKind) :
    OnlyTakes (Reader.fields kind) (Spelled kind) := by
  cases kind with
  -- the code that was read is the code of the reason, so nothing is lost
  | reject =>
    refine onlyTakes_byte.bind_pure ?_
    rintro code b rfl
    have hcode := code_ofCode code
    have hspelled := spelled_fields (f := .reject (.ofCode code)) rfl trivial
      (ofCode_code_eq_iff.mp (congrArg RejectReason.ofCode hcode))
    rwa [encodeFields, hcode] at hspelled
  | ack => exact onlyTakes_pure (spelled_fields (f := .ack) rfl trivial trivial)
  -- fields that have one spelling only
  | joinFederation =>
    exact onlyTakes_identity fun f s hs =>
      spelled_fields (f := .joinFederation f s) rfl trivial hs
  | joinPeer =>
    exact onlyTakes_identity fun f s hs =>
      spelled_fields (f := .joinPeer f s) rfl trivial hs
  | clockSyncRequest =>
    refine onlyTakes_word.bind_pure ?_
    rintro n b rfl
    exact spelled_fields (f := .clockSyncRequest n) rfl trivial trivial
  | clockSyncT1 =>
    refine onlyTakes_instant.bind_pure ?_
    rintro t b rfl
    exact spelled_fields (f := .clockSyncT1 t) rfl trivial trivial
  | clockSyncT3 =>
    refine onlyTakes_federate.bind_pure ?_
    rintro f b rfl
    exact spelled_fields (f := .clockSyncT3 f) rfl trivial trivial
  | clockSyncT4 =>
    refine onlyTakes_instant.bind_pure ?_
    rintro t b rfl
    exact spelled_fields (f := .clockSyncT4 t) rfl trivial trivial
  -- the port may be out of range, and then it is read as none
  | addressAdvertisement =>
    refine onlyTakes_widePort.bind_pure ?_
    rintro port b ⟨n, rfl, hlo, hhi, rfl⟩
    refine ⟨rfl, trivial, trivial, ?_⟩
    have hcanonical :=
      canonical_of_standIn?_some .addressAdvertisement rfl hlo hhi .empty
    rw [ByteArray.append_empty, ByteArray.append_empty] at hcanonical
    rw [hcanonical, encodeFields]
    split_ifs with hn
    · rw [Option.getD_some, toNat_of_port hn]
    · rfl
  | addressQuery =>
    refine onlyTakes_federate.bind_pure ?_
    rintro f b rfl
    exact spelled_fields (f := .addressQuery f) rfl trivial trivial
  | addressQueryReply =>
    refine onlyTakes_widePort.bind ?_
    rintro port b ⟨n, rfl, hlo, hhi, rfl⟩
    refine onlyTakes_host.bind_pure ?_
    rintro host b rfl
    refine ⟨rfl, trivial, trivial, ?_⟩
    rw [canonical_of_standIn?_some .addressQueryReply rfl hlo hhi, encodeFields]
    split_ifs with hn
    · rw [Option.map_some, Option.getD_some, toNat_of_port hn]
    · rfl
  -- a payload was read, so it is no longer than a frame may carry
  | untimedMessage =>
    refine onlyTakes_untimedMessage.bind_pure ?_
    rintro m b ⟨rfl, hsize⟩
    exact spelled_fields (f := .untimedMessage m) rfl hsize trivial
  | peerTaggedMessage =>
    refine onlyTakes_taggedMessage.bind_pure ?_
    rintro m b ⟨rfl, hsize⟩
    exact spelled_fields (f := .peerTaggedMessage m) rfl hsize trivial
  | taggedMessage =>
    refine onlyTakes_taggedMessage.bind_pure ?_
    rintro m b ⟨rfl, hsize⟩
    exact spelled_fields (f := .taggedMessage m) rfl hsize trivial
  | portAbsent =>
    refine onlyTakes_absentNotice.bind_pure ?_
    rintro n b rfl
    exact spelled_fields (f := .portAbsent n) rfl trivial trivial
  | neighborStructure =>
    refine onlyTakes_neighbors.bind_pure ?_
    rintro n b ⟨rfl, hlimits, hrep⟩
    exact spelled_fields (f := .neighborStructure n) rfl hlimits hrep
  | resign =>
    exact onlyTakes_pure (spelled_fields (f := .resign) rfl trivial trivial)

theorem code_of_ofCode? {code : UInt8} {kind : FrameKind}
    (h : FrameKind.ofCode? code = some kind) : kind.code = code := by
  unfold FrameKind.ofCode? at h
  split at h <;> cases h <;> rfl

/-- The bytes that a frame was read from are its encoding, but for a port out of
range. -/
theorem onlyTakes_reader :
    OnlyTakes reader fun f b =>
      f.encode = .ok (canonical b) ∧ f.Representable := by
  refine onlyTakes_byte.bind ?_
  rintro code b rfl
  rcases hkind : FrameKind.ofCode? code with - | kind
  · exact onlyTakes_throw _
  · refine (onlyTakes_fields kind).mono ?_
    rintro f b ⟨rfl, hlimits, hrep, hcanonical⟩
    rw [← code_of_ofCode? hkind]
    exact ⟨encode_ok_iff.mpr ⟨hlimits, hcanonical⟩, hrep⟩

theorem Reads.encode_eq {b : ByteArray} {f : Frame} (h : Reads b f) :
    f.encode = .ok (canonical b) := by
  obtain ⟨before, rest, ending, hread⟩ := h
  obtain ⟨b', rest', hb, hc, hencode, -⟩ := onlyTakes_reader _ _ _ _ _ hread
  -- the place behind both prefixes is one, so they are one
  have hposition : (before ++ b).size = (before ++ b').size :=
    congrArg Cursor.position hc
  have hsize : b.size = b'.size := by
    rw [ByteArray.size_append, ByteArray.size_append] at hposition
    omega
  have hstart := congrArg (fun bytes => bytes.extract 0 b.size) hb
  rw [ByteArray.extract_append_eq_left rfl, ByteArray.extract_append_eq_left hsize]
    at hstart
  rw [hstart, hencode]

end Frame

/-- **Every frame has one spelling.** Of what is left of a stream a reader takes
the bytes of one frame, if it takes any. The frame can be encoded, and its
encoding is what was taken, but for a port out of range, which gives way to the
one that is written for all of them; and that encoding is read as the same
frame. So other bytes that stand for the frame have the same canonical spelling,
and differ from these only if there is a port out of range in one of them. -/
theorem read_frames_are_canonical (before after : ByteArray) (ending : IoError)
    {f : Frame} {c : Cursor}
    (h : Frame.reader (.between before after ending) = .ok f c) :
    ∃ taken rest,
      after = taken ++ rest ∧ c = .between (before ++ taken) rest ending ∧
      f.encode = .ok (Frame.canonical taken) ∧
      Frame.decode (Frame.canonical taken) = .ok f ∧
      ∀ other, Frame.Reads other f → Frame.canonical other = Frame.canonical taken ∧
        (other ≠ taken → (Frame.standIn? other).isSome ∨
          (Frame.standIn? taken).isSome) := by
  obtain ⟨taken, rest, hafter, hc, hencode, hrep⟩ :=
    Frame.onlyTakes_reader before after ending f c h
  refine ⟨taken, rest, hafter, hc, hencode, Frame.decode_encode hencode hrep, ?_⟩
  intro other hother
  have heq : Frame.canonical other = Frame.canonical taken :=
    Except.ok.inj (hother.encode_eq.symm.trans hencode)
  refine ⟨heq, fun hne => ?_⟩
  by_contra hnone
  rw [not_or, Option.not_isSome_iff_eq_none, Option.not_isSome_iff_eq_none] at hnone
  rw [Frame.canonical, Frame.canonical, hnone.1, hnone.2] at heq
  exact hne heq

/-- An advertisement of a port out of range. -/
def strayAdvertisement : ByteArray := [14, 254, 255, 255, 255].toByteArray

theorem read_frames_are_canonical_stray :
    (∃ c, Frame.reader
      (.between .empty (strayAdvertisement ++ [255].toByteArray) .endOfInput)
      = .ok (.addressAdvertisement 0) c) ∧
    Frame.canonical strayAdvertisement = [14, 0, 0, 0, 0].toByteArray ∧
    (Frame.addressAdvertisement 0).encode
      = .ok (Frame.canonical strayAdvertisement) := by
  have hread : Frame.reader
      (.between .empty (strayAdvertisement ++ [255].toByteArray) .endOfInput)
      = .ok (.addressAdvertisement 0)
        (.between (.empty ++ strayAdvertisement) [255].toByteArray .endOfInput) :=
        rfl
  obtain ⟨taken, rest, -, -, hencode, -, hother⟩ :=
    read_frames_are_canonical _ _ _ hread
  have hsame := (hother strayAdvertisement ⟨_, _, _, hread⟩).1
  refine ⟨⟨_, hread⟩, by decide, ?_⟩
  rw [hsame, hencode]

end Federation
