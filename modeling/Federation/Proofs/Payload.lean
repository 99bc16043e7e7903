/-
Federation/Proofs/Payload.lean

Values there and back.

A value that has a payload is read from it again (`decode_encode`). What is read
is the same value, with two allowances (`ArrivesAs`): of a token only the
elements are kept, not the buffer behind them, and elements without size cannot
be counted; a message gets the handle that the type of the port asks for. The
serializer for messages is given from outside, so of messages this holds if the
reader's serializer reads what the writer's has written (`PayloadCodec.ReadBy`).
-/
import Mathlib
import Federation.Payload
import Federation.Proofs.Takes

namespace Federation

variable {μ : Type}

/-- What the value may arrive as at a port of the given type. -/
inductive PortValue.ArrivesAs (type : ValueType) : PortValue μ → PortValue μ → Prop
  | unit : ArrivesAs type .unit .unit
  | fixed (bytes : ByteArray) : ArrivesAs type (.fixed bytes) (.fixed bytes)
  | text (s : String) : ArrivesAs type (.text s) (.text s)
  | token {t t' : Token} :
      t'.elementSize = t.elementSize → t'.bytes = t.bytes →
      t'.length = (if t.elementSize = 0 then 0 else t.length) →
      ArrivesAs type (.token t) (.token t')
  | message {typeName : String} {shared : Bool} (m : RosMessage μ) :
      type = .ros2 typeName shared →
        ArrivesAs type (.message m) (.message ⟨m.content, shared⟩)

/-- Whether `reader` has a serializer for messages that reads what the one of
`writer` writes. -/
def PayloadCodec.ReadBy (writer reader : PayloadCodec μ) : Prop :=
  ∀ w, writer.ros2 = some w → ∃ r, reader.ros2 = some r ∧
    ∀ typeName content bytes, w.serialize typeName content = .ok bytes →
      r.deserialize typeName bytes = .ok content

namespace Payload

theorem extract_push (b : ByteArray) (x : UInt8) :
    (b.push x).extract 0 b.size = b := by
  rw [← ByteArray.append_toByteArray_singleton,
    ByteArray.extract_append_eq_left rfl]

theorem decodeText_push (s : String) :
    decodeText (s.toByteArray.push 0) = .ok (.text s : PortValue μ) := by
  have hback : (s.toByteArray.push 0).data.back? = some 0 := Array.back?_push
  rw [decodeText, if_pos hback, ByteArray.size_push, Nat.add_sub_cancel,
    extract_push, fromUTF8?_toByteArray]

theorem size_bytes (t : Token) : t.bytes.size = t.length * t.elementSize := by
  rw [Token.bytes, ByteArray.size_extract, Nat.sub_zero, Nat.min_eq_left t.fits]

/-- The elements of a payload are counted exactly if they fill it. -/
theorem elementCount_ok_iff {elementSize length : Nat} {payload : ByteArray} :
    elementCount elementSize payload = .ok length ↔
      elementSize ∣ payload.size ∧ length = payload.size / elementSize := by
  unfold elementCount
  split
  · next hzero =>
    subst hzero
    rw [Nat.zero_dvd, Nat.div_zero]
    split <;> simp_all [eq_comm]
  · rw [Nat.dvd_iff_mod_eq_zero]
    split <;> simp_all [eq_comm]

/-- Elements that fill a payload make a token of it. -/
theorem decodeToken_of_dvd {elementSize : Nat} {payload : ByteArray}
    (h : elementSize ∣ payload.size) :
    decodeToken elementSize payload = .ok (.token
      ⟨payload, elementSize, payload.size / elementSize, Nat.div_mul_le_self _ _⟩ :
        PortValue μ) := by
  have hbuffer : Token.ofBuffer? payload elementSize (payload.size / elementSize)
      = some ⟨payload, elementSize, payload.size / elementSize,
        Nat.div_mul_le_self _ _⟩ :=
    dif_pos (Nat.div_mul_le_self _ _)
  rw [decodeToken, elementCount_ok_iff.mpr ⟨h, rfl⟩]
  simp only [bind, Except.bind]
  rw [hbuffer]
  rfl

/-- The elements of a token fill its payload, so all of them are read. -/
theorem decodeToken_bytes (t : Token) :
    ∃ t' : Token,
      decodeToken t.elementSize t.bytes = .ok (.token t' : PortValue μ) ∧
      t'.elementSize = t.elementSize ∧ t'.bytes = t.bytes ∧
      t'.length = if t.elementSize = 0 then 0 else t.length := by
  -- without size the elements leave no bytes, and nought divides nought
  have hdvd : t.elementSize ∣ t.bytes.size := by
    rw [size_bytes]
    exact Nat.dvd_mul_left _ _
  have hlength : t.bytes.size / t.elementSize = if t.elementSize = 0 then 0
      else t.length := by
    split
    · next h => rw [h, Nat.div_zero]
    · next h => rw [size_bytes, Nat.mul_div_cancel _ (Nat.pos_of_ne_zero h)]
  exact ⟨_, decodeToken_of_dvd hdvd, rfl, Token.bytes_of_dvd hdvd, hlength⟩

theorem decodeNative_encodeNative {type : ValueType} {v : PortValue μ}
    {payload : ByteArray} (h : encodeNative type v = .ok payload) :
    ∃ w, decodeNative type payload = .ok w ∧ v.ArrivesAs type w := by
  unfold encodeNative at h
  split at h
  · cases h
    exact ⟨.unit, rfl, .unit⟩
  · next size bytes =>
    split at h
    · next hsize =>
      cases h
      exact ⟨.fixed payload, by rw [decodeNative, if_pos hsize], .fixed payload⟩
    · cases h
  · next s =>
    cases h
    exact ⟨.text s, decodeText_push s, .text s⟩
  · next elementSize t =>
    split at h
    · next hsize =>
      cases h
      obtain ⟨t', hdecode, helement, hbytes, hlength⟩ := decodeToken_bytes t
      exact ⟨.token t', hsize ▸ hdecode, .token helement hbytes hlength⟩
    · cases h
  · cases h

end Payload

namespace PayloadCodec

theorem requireRos2_ok {codec : PayloadCodec μ} {s : Ros2Serializer μ}
    (h : codec.ros2 = some s) :
    codec.requireRos2 = .ok s := by
  rw [requireRos2, h]

/-- The serializer that is installed writes every message. -/
theorem encodeRos2_message {codec : PayloadCodec μ} {s : Ros2Serializer μ}
    (h : codec.ros2 = some s) (typeName : String) (shared : Bool)
    (m : RosMessage μ) :
    codec.encodeRos2 (.ros2 typeName shared) (.message m)
      = s.serialize typeName m.content := by
  rw [encodeRos2, requireRos2_ok h]
  rfl

/-- The serializer that is installed reads every message, which gets the handle
of the port. -/
theorem decodeRos2_of_some {codec : PayloadCodec μ} {s : Ros2Serializer μ}
    (h : codec.ros2 = some s) (typeName : String) (shared : Bool)
    (payload : ByteArray) :
    codec.decodeRos2 (.ros2 typeName shared) payload
      = (s.deserialize typeName payload).map fun content =>
        .message ⟨content, shared⟩ := by
  simp only [decodeRos2, requireRos2_ok h, bind, Except.bind]
  cases s.deserialize typeName payload <;> rfl

theorem decodeRos2_encodeRos2 {writer reader : PayloadCodec μ} {type : ValueType}
    {v : PortValue μ} {payload : ByteArray} (hread : writer.ReadBy reader)
    (h : writer.encodeRos2 type v = .ok payload) :
    ∃ w, reader.decodeRos2 type payload = .ok w ∧ v.ArrivesAs type w := by
  unfold encodeRos2 at h
  split at h
  · next typeName shared m =>
    rcases hw : writer.ros2 with - | s
    · rw [requireRos2, hw] at h
      cases h
    · obtain ⟨r, hr, hback⟩ := hread s hw
      rw [requireRos2_ok hw] at h
      have hcontent := hback typeName m.content payload h
      refine ⟨.message ⟨m.content, shared⟩, ?_, .message m rfl⟩
      rw [decodeRos2_of_some hr, hcontent]
      rfl
  · cases h
  · cases h

/-- A value is read from its payload. -/
theorem decode_encode {writer reader : PayloadCodec μ} {serializer : Serializer}
    {type : ValueType} {v : PortValue μ} {payload : ByteArray}
    (hread : serializer = .ros2 → writer.ReadBy reader)
    (h : writer.encode serializer type v = .ok payload) :
    ∃ w, reader.decode serializer type payload = .ok w ∧ v.ArrivesAs type w := by
  cases serializer with
  | native => exact Payload.decodeNative_encodeNative h
  | proto => cases h
  | ros2 => exact decodeRos2_encodeRos2 (hread rfl) h

end PayloadCodec

end Federation
