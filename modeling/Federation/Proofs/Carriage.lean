/-
Federation/Proofs/Carriage.lean

What a serializer carries.

A connection is checked before the federation starts, and its values are written
and read while it runs, by another part of the program. Both go by the same
rule, which is said here apart from both (`Serializer.Carries`): the native
serializer carries all types but those of ROS messages, the ROS serializer
carries these only, and protocol buffers carry nothing.

* What is carried passes the check (`validateEncoding_ok_iff`), and some of its
  values can be written (`exists_encode_of_carries`).
* What is not carried is refused by the check, and no codec writes any value or
  reads any payload of it (`fails_of_not_carries`).

So a connection that passes the check does not fail later for its type
(`validation_predicts_codec`), unless the serializer that is installed for ROS
messages says so: it gets all messages and decides on them (`consults`), and its
answer is passed on as it is (`validation_misses_declining_serializer`). The
native serializer refuses the values of another kind or size and no others
(`encodeNative_error_iff`).
-/
import Mathlib
import Federation.Proofs.Native
import Federation.Proofs.Numbering

namespace Federation

variable {μ : Type}

/-- Whether the serializer carries the values of the type. -/
def Serializer.Carries : Serializer → ValueType → Prop
  | native, type => type.isRos2 = false
  | ros2, type => type.isRos2 = true
  | proto, _ => False

namespace ValueType

/-- The name of the kind of values that a port of the type carries. -/
def kindName : ValueType → String
  | unit => "unit"
  | fixed _ => "fixed"
  | text => "text"
  | token _ => "token"
  | ros2 _ _ => "ros2"

theorem eq_of_isRos2 {type : ValueType} (h : type.isRos2 = true) :
    ∃ typeName shared, type = .ros2 typeName shared := by
  cases type with
  | ros2 typeName shared => exact ⟨typeName, shared, rfl⟩
  | _ => cases h

/-- The values that the native serializer does not write at a port of the type,
each with its failure: those of another kind, and those of the right kind that
have another size. -/
inductive Refuses : ValueType → PortValue μ → PayloadError → Prop
  | kind {type : ValueType} {v : PortValue μ} (h : v.kindName ≠ type.kindName) :
      Refuses type v (.typeMismatch type v.kindName)
  | fixed {size : Nat} {bytes : ByteArray} (h : bytes.size ≠ size) :
      Refuses (.fixed size) (.fixed bytes) (.lengthMismatch size bytes.size)
  | token {elementSize : Nat} {t : Token} (h : t.elementSize ≠ elementSize) :
      Refuses (.token elementSize) (.token t)
        (.lengthMismatch elementSize t.elementSize)

end ValueType

/-- Whether the failure says that serializer and type do not go together. -/
def PayloadError.IsRefusal (e : PayloadError) : Prop :=
  e = .ros2Token ∨ ∃ serializer, e = .unsupported serializer

variable {codec : PayloadCodec μ} {serializer : Serializer} {type : ValueType}
  {v : PortValue μ}
variable {payload : ByteArray} {e : PayloadError}

/-! ### What is not carried -/

/-- No codec writes a value of a type that is not carried, or reads a payload of
it. -/
theorem PayloadCodec.fails_of_not_carries (h : ¬ serializer.Carries type)
    (codec : PayloadCodec μ) :
    (∀ v, ∃ e, codec.encode serializer type v = .error e) ∧
      ∀ payload, ∃ e, codec.decode serializer type payload = .error e := by
  cases serializer with
  | native =>
    have hros2 : type.isRos2 = true := by simpa [Serializer.Carries] using h
    obtain ⟨typeName, shared, rfl⟩ := ValueType.eq_of_isRos2 hros2
    exact ⟨fun _ => ⟨_, rfl⟩, fun _ => ⟨_, rfl⟩⟩
  | proto => exact ⟨fun _ => ⟨_, rfl⟩, fun _ => ⟨_, rfl⟩⟩
  | ros2 =>
    cases type with
    | ros2 typeName shared => exact absurd rfl h
    | _ => exact ⟨fun _ => ⟨_, rfl⟩, fun _ => ⟨_, rfl⟩⟩

/-! ### What is carried -/

/-- Of what it carries, the native serializer refuses the values of another kind
or size and no others. -/
theorem Payload.encodeNative_error_iff (hcarries : Serializer.native.Carries type) :
    encodeNative type v = .error e ↔ type.Refuses v e := by
  constructor
  · -- each refusal, by the branch of the serializer that makes it
    intro h
    unfold encodeNative at h
    split at h
    · cases h
    · split at h
      · cases h
      · next hsize =>
        cases h
        exact .fixed hsize
    · cases h
    · split at h
      · cases h
      · next hsize =>
        cases h
        exact .token hsize
    · cases h
      refine .kind fun hkind => ?_
      -- values and types of one name that were not met above are messages,
      -- which are not carried
      cases type <;> cases v <;> simp_all [PortValue.kindName,
        ValueType.kindName, Serializer.Carries, ValueType.isRos2]
  · intro h
    cases h with
    | kind hkind =>
      cases type <;> cases v <;> first | rfl | exact absurd rfl hkind
    | fixed hsize => rw [encodeNative, if_neg hsize]
    | token hsize => rw [encodeNative, if_neg hsize]

/-- A serializer for ROS messages that has one answer for all of them, and reads
none. -/
def Ros2Serializer.answering (answer : Except PayloadError ByteArray) :
    Ros2Serializer μ where
  serialize _ _ := answer
  deserialize typeName _ := .error (.ros2 typeName)

/-- How a codec with a serializer for ROS messages goes about a port of
messages: a message is written and read by the serializer, under the name of its
type, and what is read gets the handle of the port. -/
structure PayloadCodec.Consults (codec : PayloadCodec μ) (s : Ros2Serializer μ)
    (typeName : String) (shared : Bool) : Prop where
  encode_message : ∀ m, codec.encode .ros2 (.ros2 typeName shared) (.message m)
    = s.serialize typeName m.content
  encode_other : ∀ v,
    (∀ m, v ≠ .message m) → codec.encode .ros2 (.ros2 typeName shared) v =
    .error (.typeMismatch (.ros2 typeName shared) v.kindName)
  decode : ∀ payload, codec.decode .ros2 (.ros2 typeName shared) payload =
    (s.deserialize typeName payload).map fun content => .message ⟨content, shared⟩

namespace PayloadCodec

/-- A serializer that is installed is consulted on every message. -/
theorem consults {s : Ros2Serializer μ} (h : codec.ros2 = some s)
    (typeName : String) (shared : Bool) :
    codec.Consults s typeName shared where
  encode_message m := encodeRos2_message h typeName shared m
  encode_other v hv := by
    cases v with
    | message m => exact absurd rfl (hv m)
    | _ => rfl
  decode payload := decodeRos2_of_some h typeName shared payload

/-- Some value of what is carried can be written, if there are messages at all. -/
theorem exists_encode_of_carries [Nonempty μ] (h : serializer.Carries type) :
    ∃ (codec : PayloadCodec μ) (v : PortValue μ) (payload : ByteArray),
      codec.encode serializer type v = .ok payload := by
  cases serializer with
  | native =>
    have hadmits : ∃ v : PortValue μ, type.Admits v := by
      cases type with
      | unit => exact ⟨_, .unit⟩
      | fixed size =>
        exact ⟨.fixed ⟨Array.replicate size 0⟩, .fixed (Array.size_replicate ..)⟩
      | text => exact ⟨_, .text ""⟩
      | token elementSize =>
        exact ⟨.token ⟨.empty, elementSize, 0, by simp⟩, .token rfl⟩
      | ros2 typeName shared => cases h
    obtain ⟨v, hv⟩ := hadmits
    obtain ⟨payload, hpayload⟩ := Payload.exists_encodeNative_iff.mpr hv
    exact ⟨{}, v, payload, hpayload⟩
  | proto => cases h
  | ros2 =>
    obtain ⟨typeName, shared, rfl⟩ := ValueType.eq_of_isRos2 h
    obtain ⟨content⟩ := ‹Nonempty μ›
    exact ⟨{ ros2 := some (.answering (.ok .empty)) },
      .message ⟨content, false⟩, _, rfl⟩

/-- If a value of what is carried is refused for its type, then this is the
answer of the serializer for ROS messages, which is passed on. -/
theorem answer_of_isRefusal (hcarries : serializer.Carries type)
    (hrefusal : e.IsRefusal) (h : codec.encode serializer type v = .error e) :
    ∃ s typeName shared m, codec.ros2 = some s ∧ type = .ros2 typeName shared ∧
      v = .message m ∧ s.serialize typeName m.content = .error e := by
  cases serializer with
  | native =>
    rcases hrefusal with rfl | ⟨_, rfl⟩ <;>
      cases (Payload.encodeNative_error_iff hcarries).mp h
  | proto => cases hcarries
  | ros2 =>
    obtain ⟨typeName, shared, rfl⟩ := ValueType.eq_of_isRos2 hcarries
    cases v with
    | message m =>
      rcases hcodec : codec.ros2 with - | s
      · -- a codec without a serializer has a failure of its own
        rw [encode, encodeRos2, requireRos2, hcodec] at h
        cases h
        rcases hrefusal with h' | ⟨_, h'⟩ <;> cases h'
      · rw [(consults hcodec typeName shared).encode_message] at h
        exact ⟨s, typeName, shared, m, rfl, rfl, rfl, h⟩
    | _ =>
      cases h
      rcases hrefusal with h' | ⟨_, h'⟩ <;> cases h'

end PayloadCodec

/-! ### The check -/

namespace Connection

/-- The check lets a connection pass exactly if its serializer carries its type. -/
theorem validateEncoding_ok_iff {c : Connection} :
    c.validateEncoding = .ok () ↔ c.serializer.Carries c.valueType := by
  unfold validateEncoding
  rcases c.serializer with - | - | - <;>
    rcases c.valueType with - | - | - | - | - <;>
    simp [Serializer.Carries, ValueType.isRos2]

/-- **The check predicts the codec.** Of a connection that is refused though it
crosses federates and has a delay that it may have, no codec ever writes a value
or reads a payload. If a connection passes, some value can be written, and what
is refused because serializer and type do not go together is so by the installed
serializer for ROS messages alone, whose answer is passed on. The native
serializer refuses the values of another kind or size and no others. -/
theorem validation_predicts_codec (c : Connection) :
    (c.source.federate ≠ c.destination.federate →
      (∀ d, c.delay = some d → 0 ≤ d.ns ∧ c.physical = false) →
        c.validate ≠ .ok () →
      ∀ codec : PayloadCodec μ,
        (∀ v, ∃ e, codec.encode c.serializer c.valueType v = .error e) ∧
        ∀ payload, ∃ e, codec.decode c.serializer c.valueType payload = .error e) ∧
    (c.validate = .ok () →
      (Nonempty μ →
        ∃ (codec : PayloadCodec μ) (v : PortValue μ) (payload : ByteArray),
        codec.encode c.serializer c.valueType v = .ok payload) ∧
      (∀ (codec : PayloadCodec μ) (v : PortValue μ) (e : PayloadError),
        codec.encode c.serializer c.valueType v = .error e → e.IsRefusal →
        ∃ s typeName shared m,
          codec.ros2 = some s ∧ c.valueType = .ros2 typeName shared ∧
          v = .message m ∧ s.serialize typeName m.content = .error e) ∧
      (c.serializer = .native ∧
          (∀ (codec : PayloadCodec μ) (v : PortValue μ) (e : PayloadError),
            codec.encode c.serializer c.valueType v = .error e ↔
              c.valueType.Refuses v e) ∨
        c.serializer = .ros2 ∧
          ∃ typeName shared, c.valueType = .ros2 typeName shared ∧
          ∀ (codec : PayloadCodec μ) s, codec.ros2 = some s →
            codec.Consults s typeName shared)) := by
  constructor
  · intro hcross hdelay hrefused codec
    have hcarries : ¬ c.serializer.Carries c.valueType := fun h =>
      hrefused (validate_ok_iff.mpr
        ⟨hcross, validateDelay_ok_iff.mpr hdelay, validateEncoding_ok_iff.mpr h⟩)
    exact codec.fails_of_not_carries hcarries
  · intro hvalid
    have hcarries := validateEncoding_ok_iff.mp (validate_ok_iff.mp hvalid).2.2
    refine ⟨fun _ => PayloadCodec.exists_encode_of_carries hcarries,
      fun codec v e h hrefusal =>
        PayloadCodec.answer_of_isRefusal hcarries hrefusal h, ?_⟩
    rcases hserializer : c.serializer with - | - | - <;>
      rw [hserializer] at hcarries
    · exact .inl ⟨rfl, fun codec v e => Payload.encodeNative_error_iff hcarries⟩
    · cases hcarries
    · obtain ⟨typeName, shared, htype⟩ := ValueType.eq_of_isRos2 hcarries
      exact .inr ⟨rfl, typeName, shared, htype, fun codec s h =>
        PayloadCodec.consults h typeName shared⟩

/-- A connection from one federate to another, with the least delay. -/
def across (serializer : Serializer) (type : ValueType) : Connection where
  source := ⟨⟨1⟩, { name := "sender.out" }⟩
  destination := ⟨⟨2⟩, { name := "receiver.in" }⟩
  delay := some .zero
  serializer := serializer
  valueType := type

/-- Tokens are refused to the ROS serializer, and never written by it. A block
of four bytes may go by the native one, which refuses those of three bytes; and
messages may go by a serializer for plain text, which refuses none of them for
its type. -/
theorem validation_predicts_codec_across :
    ((across .ros2 (.token 4)).validate ≠ .ok () ∧
      ∀ (codec : PayloadCodec (String ⊕ Nat)) v,
        ∃ e, codec.encode .ros2 (.token 4) v = .error e) ∧
    ((across .native (.fixed 4)).validate = .ok () ∧
      ({} : PayloadCodec (String ⊕ Nat)).encode .native (.fixed 4)
        (.fixed ⟨#[1, 2, 3]⟩) = .error (.lengthMismatch 4 3)) ∧
    ((across .ros2 (.ros2 "std_msgs/String" true)).validate = .ok () ∧
      let codec : PayloadCodec (String ⊕ Nat) := { ros2 := some .plainText }
      codec.Consults .plainText "std_msgs/String" true ∧
      ∀ v e, codec.encode .ros2 (.ros2 "std_msgs/String" true) v = .error e →
        ¬ e.IsRefusal) := by
  have hrefused : (across .ros2 (.token 4)).validate ≠ .ok () := by decide
  have hblock : (across .native (.fixed 4)).validate = .ok () := by decide
  have hmessage :
      (across .ros2 (.ros2 "std_msgs/String" true)).validate = .ok () := by
    decide
  refine ⟨⟨hrefused, fun codec => ?_⟩, ⟨hblock, ?_⟩, hmessage, ?_⟩
  · have hdelay : ∀ d, (across .ros2 (.token 4)).delay = some d →
        0 ≤ d.ns ∧ (across .ros2 (.token 4)).physical = false := by
      rintro d ⟨⟩
      exact ⟨le_refl 0, rfl⟩
    exact ((validation_predicts_codec (across .ros2 (.token 4))).1
      (by decide) hdelay hrefused codec).1
  · obtain ⟨-, -, ⟨-, hnative⟩ | ⟨h, -⟩⟩ :=
      (validation_predicts_codec (across .native (.fixed 4))).2 hblock
    · exact (hnative {} (.fixed ⟨#[1, 2, 3]⟩) _).mpr (.fixed (by decide))
    · cases h
  · obtain ⟨-, hanswer, ⟨h, -⟩ | ⟨-, typeName, shared, htype, hros2⟩⟩ :=
      (validation_predicts_codec (across .ros2 (.ros2 "std_msgs/String" true))).2
        hmessage
    · cases h
    · cases htype
      refine ⟨hros2 { ros2 := some .plainText } .plainText rfl,
        fun v e h hrefusal => ?_⟩
      -- the answers of the serializer for plain text are payloads and failures
      -- of its own
      obtain ⟨s, typeName, shared, ⟨text | number, _⟩, hs, -, -, h⟩ :=
        hanswer _ v e h hrefusal
      · cases hs
        cases h
      · cases hs
        cases h
        rcases hrefusal with h | ⟨_, h⟩ <;> cases h

/-- A connection for messages passes the check whatever the serializer for them
will say. One that declines all messages as tokens is quoted by the codec. -/
theorem validation_misses_declining_serializer :
    let c := across .ros2 (.ros2 "std_msgs/String" true)
    let codec : PayloadCodec String :=
      { ros2 := some (.answering (.error .ros2Token)) }
    c.validate = .ok () ∧
      codec.encode c.serializer c.valueType (.message ⟨"ping", true⟩)
        = .error .ros2Token := by
  decide

end Connection

end Federation
