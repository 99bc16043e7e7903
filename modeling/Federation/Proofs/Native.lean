/-
Federation/Proofs/Native.lean

The native serializer, value by value and payload by payload.

A type of port admits the values of its kind that have its size
(`ValueType.Admits`), and accepts the payloads that have its form
(`ValueType.Accepts`). Both are said here without a look at the serializer:

* it writes exactly the values that the type admits (`encodeNative_ok_iff`),
  each in one way (`PortValue.WrittenAs`), and what it has written it reads
  again (`native_round_trip`);
* it reads exactly the payloads that the type accepts (`decodeNative_ok_iff`),
  and these are the payloads that it writes: what was read is written again as
  it stood (`encodeNative_decodeNative`, `native_image`).

The elements of a token are a part of its buffer, and those of a payload are all
of it. So on a machine whose sizes are below some limit, where a product of two
sizes may overflow and a buffer may end too early, neither happens to a token
whose buffer fits the machine (`bytesBelow?_eq`, `ofBufferBelow?_eq`).
-/
import Mathlib
import Federation.Proofs.Payload

namespace Federation

variable {μ : Type}

/-! ### Sizes with a limit -/

namespace Token

/-- The size of some elements where sizes are below `limit`; none if it
overflows. -/
def sizeBelow? (limit elementSize length : Nat) : Option Nat :=
  if elementSize * length < limit then some (elementSize * length) else none

/-- The bytes of the elements where sizes are below `limit`; none if their size
overflows, or if the buffer ends before they do. -/
def bytesBelow? (limit : Nat) (t : Token) : Option ByteArray := do
  let stop ← sizeBelow? limit t.elementSize t.length
  if stop ≤ t.buffer.size then some (t.buffer.extract 0 stop) else none

/-- The token of the first elements of a buffer where sizes are below `limit`;
none if their size overflows, or if the buffer ends before they do. -/
def ofBufferBelow? (limit : Nat) (buffer : ByteArray)
    (elementSize length : Nat) : Option Token := do
  let _ ← sizeBelow? limit elementSize length
  ofBuffer? buffer elementSize length

theorem sizeBelow?_eq {limit elementSize length : Nat}
    (h : length * elementSize < limit) :
    sizeBelow? limit elementSize length = some (length * elementSize) := by
  rw [sizeBelow?, Nat.mul_comm, if_pos h]

/-- Nothing goes wrong with the elements of a buffer that fits. -/
theorem bytesBelow?_eq {limit : Nat} {t : Token} (h : t.buffer.size < limit) :
    t.bytesBelow? limit = some t.bytes := by
  have hsize := sizeBelow?_eq (Nat.lt_of_le_of_lt t.fits h)
  rw [bytesBelow?, hsize]
  exact if_pos t.fits

/-- A size that overflows is beyond the end of every buffer that fits. -/
theorem ofBufferBelow?_eq {limit elementSize length : Nat} {buffer : ByteArray}
    (h : buffer.size < limit) :
    ofBufferBelow? limit buffer elementSize length
      = ofBuffer? buffer elementSize length := by
  rw [ofBufferBelow?]
  by_cases hsize : length * elementSize < limit
  · rw [sizeBelow?_eq hsize]
    rfl
  · have hlong : ¬ length * elementSize ≤ buffer.size := by omega
    rw [ofBuffer?, dif_neg hlong, sizeBelow?, Nat.mul_comm, if_neg hsize]
    rfl

theorem ofBuffer?_self (t : Token) :
    ofBuffer? t.buffer t.elementSize t.length = some t := by
  rw [ofBuffer?, dif_pos t.fits]

end Token

/-! ### What a type admits and accepts -/

namespace ValueType

/-- The values that a port of the type may carry under the native serializer. -/
inductive Admits : ValueType → PortValue μ → Prop
  | unit : Admits .unit .unit
  | fixed {size : Nat} {bytes : ByteArray} (h : bytes.size = size) :
      Admits (.fixed size) (.fixed bytes)
  | text (s : String) : Admits .text (.text s)
  | token {elementSize : Nat} {t : Token} (h : t.elementSize = elementSize) :
      Admits (.token elementSize) (.token t)

/-- The payloads that make sense at a port of the type under the native
serializer. -/
def Accepts : ValueType → ByteArray → Prop
  | unit, payload => payload = .empty
  | fixed size, payload => payload.size = size
  | text, payload => ∃ body : ByteArray, body.IsValidUTF8 ∧ payload = body.push 0
  | token elementSize, payload =>
    if elementSize = 0 then payload = .empty else payload.size % elementSize = 0
  | ros2 _ _, _ => False

end ValueType

/-- How the native serializer writes a value: a text as its UTF-8 with one null
byte behind it, a token as the bytes of its elements. -/
inductive PortValue.WrittenAs : PortValue μ → ByteArray → Prop
  | unit : WrittenAs .unit .empty
  | fixed (bytes : ByteArray) : WrittenAs (.fixed bytes) bytes
  | text (s : String) : WrittenAs (.text s) (s.toByteArray.push 0)
  | token (t : Token) : WrittenAs (.token t) t.bytes

namespace Payload

variable {type : ValueType} {v : PortValue μ} {payload : ByteArray}

/-! ### Writing -/

/-- A value is written exactly if the type admits it, and then in its one way. -/
theorem encodeNative_ok_iff :
    encodeNative type v = .ok payload ↔ type.Admits v ∧ v.WrittenAs payload := by
  constructor
  · -- each way to write is for one type, and checks what the type asks of the value
    intro h
    unfold encodeNative at h
    split at h
    · cases h
      exact ⟨.unit, .unit⟩
    · split at h
      · next hsize =>
        cases h
        exact ⟨.fixed hsize, .fixed payload⟩
      · cases h
    · next s =>
      cases h
      exact ⟨.text s, .text s⟩
    · next t =>
      split at h
      · next hsize =>
        cases h
        exact ⟨.token hsize, .token t⟩
      · cases h
    · cases h
  · rintro ⟨hadmits, hwritten⟩
    cases hadmits with
    | unit =>
      cases hwritten
      rfl
    | fixed hsize =>
      cases hwritten
      rw [encodeNative, if_pos hsize]
    | text s =>
      cases hwritten
      rfl
    | token hsize =>
      cases hwritten
      rw [encodeNative, if_pos hsize]

theorem exists_encodeNative_iff :
    (∃ payload, encodeNative type v = .ok payload) ↔ type.Admits v := by
  constructor
  · rintro ⟨payload, h⟩
    exact (encodeNative_ok_iff.mp h).1
  · intro h
    have hwritten : ∃ payload, v.WrittenAs payload := by
      cases h with
      | unit => exact ⟨_, .unit⟩
      | fixed _ => exact ⟨_, .fixed _⟩
      | text s => exact ⟨_, .text s⟩
      | token _ => exact ⟨_, .token _⟩
    obtain ⟨payload, hpayload⟩ := hwritten
    exact ⟨payload, encodeNative_ok_iff.mpr ⟨h, hpayload⟩⟩

/-! ### Reading -/

/-- The bytes before the last one, and the last one. -/
theorem eq_push_of_back? {x : UInt8} (h : payload.data.back? = some x) :
    payload = (payload.extract 0 (payload.size - 1)).push x := by
  obtain ⟨front, hfront⟩ := Array.back?_eq_some_iff.mp h
  have hpayload : payload = (⟨front⟩ : ByteArray).push x := ByteArray.ext hfront
  rw [hpayload, ByteArray.size_push, Nat.add_sub_cancel, extract_push]

/-- A text is read from its UTF-8 with one null byte behind it, and from nothing
else. -/
theorem decodeText_ok_iff : decodeText payload = .ok v ↔ ∃ s,
    v = .text s ∧ payload = s.toByteArray.push 0 := by
  constructor
  · intro h
    unfold decodeText at h
    split at h
    · next hback =>
      split at h
      · next s hs =>
        cases h
        refine ⟨s, rfl, ?_⟩
        rw [toByteArray_of_fromUTF8? hs]
        exact eq_push_of_back? hback
      · cases h
    · cases h
  · rintro ⟨s, rfl, rfl⟩
    exact decodeText_push s

/-- A token is read from a payload that its elements fill, and holds them all. -/
theorem decodeToken_ok_iff {elementSize : Nat} :
    decodeToken elementSize payload = .ok v ↔
      elementSize ∣ payload.size ∧ v = .token
        ⟨payload, elementSize, payload.size / elementSize,
          Nat.div_mul_le_self _ _⟩ := by
  constructor
  · intro h
    have hdvd : elementSize ∣ payload.size := by
      rcases hcount : elementCount elementSize payload with e | length
      · rw [decodeToken, hcount] at h
        cases h
      · exact (elementCount_ok_iff.mp hcount).1
    rw [decodeToken_of_dvd hdvd] at h
    cases h
    exact ⟨hdvd, rfl⟩
  · rintro ⟨hdvd, rfl⟩
    exact decodeToken_of_dvd hdvd

/-- What was read is written again as it stood. -/
theorem encodeNative_decodeNative (h : decodeNative type payload = .ok v) :
    encodeNative type v = .ok payload := by
  rw [encodeNative_ok_iff]
  cases type with
  | unit =>
    rw [decodeNative] at h
    split at h
    · next hsize =>
      cases h
      rw [ByteArray.size_eq_zero_iff.mp hsize]
      exact ⟨.unit, .unit⟩
    · cases h
  | fixed size =>
    rw [decodeNative] at h
    split at h
    · next hsize =>
      cases h
      exact ⟨.fixed hsize, .fixed payload⟩
    · cases h
  | text =>
    obtain ⟨s, rfl, rfl⟩ := decodeText_ok_iff.mp h
    exact ⟨.text s, .text s⟩
  | token elementSize =>
    obtain ⟨hdvd, rfl⟩ := decodeToken_ok_iff.mp h
    let t : Token :=
      ⟨payload, elementSize, payload.size / elementSize, Nat.div_mul_le_self _ _⟩
    -- the elements fill the payload, so their bytes are all of it
    have hbytes : t.bytes = payload := Token.bytes_of_dvd hdvd
    have hwritten : (.token t : PortValue μ).WrittenAs t.bytes := .token t
    rw [hbytes] at hwritten
    exact ⟨.token rfl, hwritten⟩
  | ros2 typeName shared => cases h

/-- A payload is read exactly if it has the form of the type. -/
theorem exists_decodeNative_iff :
    (∃ v : PortValue μ, decodeNative type payload = .ok v) ↔
      type.Accepts payload := by
  cases type with
  | unit =>
    rw [decodeNative, ValueType.Accepts, ← ByteArray.size_eq_zero_iff]
    split <;> simp_all
  | fixed size =>
    rw [decodeNative, ValueType.Accepts]
    split <;> simp_all
  | text =>
    constructor
    · rintro ⟨v, h⟩
      obtain ⟨s, -, hpayload⟩ := decodeText_ok_iff.mp h
      exact ⟨s.toByteArray, s.isValidUTF8, hpayload⟩
    · rintro ⟨body, hvalid, hpayload⟩
      exact ⟨.text ⟨body, hvalid⟩,
        decodeText_ok_iff.mpr ⟨⟨body, hvalid⟩, rfl, hpayload⟩⟩
  -- elements without size fill the empty payload only, as nought divides
  -- nothing else
  | token elementSize =>
    have hdvd :
        (∃ v : PortValue μ, decodeNative (.token elementSize) payload = .ok v)
        ↔ elementSize ∣ payload.size := by
      constructor
      · rintro ⟨v, h⟩
        exact (decodeToken_ok_iff.mp h).1
      · intro h
        exact ⟨_, decodeToken_of_dvd h⟩
    rw [hdvd, ValueType.Accepts]
    split
    · next hzero => rw [hzero, Nat.zero_dvd, ByteArray.size_eq_zero_iff]
    · exact Nat.dvd_iff_mod_eq_zero
  | ros2 typeName shared =>
    constructor
    · rintro ⟨v, h⟩
      cases h
    · rintro ⟨⟩

/-- The token of a payload is all of it. -/
theorem token_of_decodeNative {t : Token}
    (h : decodeNative type payload = .ok (.token t : PortValue μ)) :
    t.buffer = payload ∧ t.bytes = payload := by
  obtain ⟨hadmits, hwritten⟩ := encodeNative_ok_iff.mp (encodeNative_decodeNative h)
  have hbytes : t.bytes = payload := by
    cases hwritten
    rfl
  cases hadmits with
  | token hsize =>
    obtain ⟨-, ht⟩ := decodeToken_ok_iff.mp h
    cases ht
    exact ⟨rfl, hbytes⟩

/-! ### There and back -/

/-- **A value there and back.** The native serializer writes a value exactly if
the type of the port admits it, and writes it in its one way. From the payload
it reads the same pulse, block or text, or a token of the same elements, counted
again; elements without size are counted as none. Neither the writer nor the
reader of a token leaves its buffer, or computes a size that is beyond what the
machine can tell. -/
theorem native_round_trip (type : ValueType) (v : PortValue μ) :
    ((∃ payload, encodeNative type v = .ok payload) ↔ type.Admits v) ∧
    ∀ payload, encodeNative type v = .ok payload →
      v.WrittenAs payload ∧
      (∀ t limit, v = .token t → t.buffer.size < limit →
        t.bytesBelow? limit = some payload) ∧
      ∃ w, decodeNative type payload = .ok w ∧ v.ArrivesAs type w ∧
        ∀ t limit, w = .token t → payload.size < limit →
          Token.ofBufferBelow? limit payload t.elementSize t.length = some t ∧
          t.bytesBelow? limit = some payload := by
  refine ⟨exists_encodeNative_iff, ?_⟩
  intro payload h
  have hwritten : v.WrittenAs payload := (encodeNative_ok_iff.mp h).2
  obtain ⟨w, hdecode, harrives⟩ := decodeNative_encodeNative h
  refine ⟨hwritten, ?_, w, hdecode, harrives, ?_⟩
  · rintro t limit rfl hfits
    cases hwritten
    exact Token.bytesBelow?_eq hfits
  · rintro t limit rfl hfits
    obtain ⟨hbuffer, hbytes⟩ := token_of_decodeNative hdecode
    subst hbuffer
    refine ⟨?_, ?_⟩
    · rw [Token.ofBufferBelow?_eq hfits, Token.ofBuffer?_self]
    · rw [Token.bytesBelow?_eq hfits, hbytes]

/-- A text keeps the null bytes at its end, and elements without size lose their
number. -/
theorem native_round_trip_at_edges :
    (∃ payload,
      encodeNative .text (.text "a\x00\x00" : PortValue Empty) = .ok payload ∧
      decodeNative .text payload = .ok (.text "a\x00\x00" : PortValue Empty)) ∧
    ∃ payload t,
      encodeNative (.token 0)
        (.token ⟨⟨#[1, 2]⟩, 0, 3, Nat.zero_le 2⟩ : PortValue Empty)
        = .ok payload ∧
      decodeNative (.token 0) payload = .ok (.token t : PortValue Empty) ∧
      t.length = 0 := by
  constructor
  · obtain ⟨-, -, w, hdecode, harrives, -⟩ :=
      (native_round_trip .text (.text "a\x00\x00" : PortValue Empty)).2 _ rfl
    cases harrives
    exact ⟨_, rfl, hdecode⟩
  · obtain ⟨-, -, w, hdecode, harrives, -⟩ :=
      (native_round_trip (.token 0)
        (.token ⟨⟨#[1, 2]⟩, 0, 3, Nat.zero_le 2⟩ : PortValue Empty)).2 _ rfl
    cases harrives with
    | token _ _ hlength => exact ⟨_, _, rfl, hdecode, hlength⟩

/-! ### What the reader accepts -/

/-- **The reader accepts what the writer writes.** A payload can be read exactly
if it is what some value is written as, that is, if it has the form of the type;
and what was read is written again as it stood. Where the elements fill the
payload, they are counted, and the token of so many elements can be made, on
every machine that the payload fits. -/
theorem native_image (type : ValueType) (payload : ByteArray) :
    ((∃ v : PortValue μ, decodeNative type payload = .ok v) ↔
      ∃ v : PortValue μ, encodeNative type v = .ok payload) ∧
    ((∃ v : PortValue μ, decodeNative type payload = .ok v) ↔
      type.Accepts payload) ∧
    (∀ v : PortValue μ,
      decodeNative type payload = .ok v → encodeNative type v = .ok payload) ∧
    ∀ elementSize, elementSize ∣ payload.size → ∃ length t,
      elementCount elementSize payload = .ok length ∧
      Token.ofBuffer? payload elementSize length = some t ∧
      (∀ limit, payload.size < limit →
        Token.ofBufferBelow? limit payload elementSize length = some t) ∧
      decodeNative (.token elementSize) payload = .ok (.token t : PortValue μ) := by
  refine ⟨⟨?_, ?_⟩, exists_decodeNative_iff, fun v => encodeNative_decodeNative, ?_⟩
  · rintro ⟨v, h⟩
    exact ⟨v, encodeNative_decodeNative h⟩
  · rintro ⟨v, h⟩
    obtain ⟨w, hdecode, -⟩ := decodeNative_encodeNative h
    exact ⟨w, hdecode⟩
  · intro elementSize hdvd
    let t : Token :=
      ⟨payload, elementSize, payload.size / elementSize, Nat.div_mul_le_self _ _⟩
    have hbuffer : Token.ofBuffer? payload elementSize
        (payload.size / elementSize) = some t :=
      Token.ofBuffer?_self t
    refine ⟨payload.size / elementSize, t, elementCount_ok_iff.mpr ⟨hdvd, rfl⟩,
      hbuffer, ?_, decodeToken_of_dvd hdvd⟩
    intro limit hfits
    rw [Token.ofBufferBelow?_eq hfits, hbuffer]

/-- Six bytes are three elements of two, and written again as six bytes; five
are not. -/
theorem native_image_of_six_bytes :
    (∃ t, Token.ofBuffer? ⟨#[1, 2, 3, 4, 5, 6]⟩ 2 3 = some t ∧
      decodeNative (.token 2) ⟨#[1, 2, 3, 4, 5, 6]⟩
        = .ok (.token t : PortValue Empty) ∧
      encodeNative (.token 2) (.token t : PortValue Empty)
        = .ok ⟨#[1, 2, 3, 4, 5, 6]⟩) ∧
    ¬ ∃ v : PortValue Empty,
      decodeNative (.token 2) ⟨#[1, 2, 3, 4, 5]⟩ = .ok v := by
  constructor
  · obtain ⟨-, -, hencode, hfill⟩ := native_image (.token 2) ⟨#[1, 2, 3, 4, 5, 6]⟩
    obtain ⟨length, t, hcount, hbuffer, -, hdecode⟩ := hfill 2 (by decide)
    cases hcount
    exact ⟨t, hbuffer, hdecode, hencode _ hdecode⟩
  · rw [(native_image (.token 2) ⟨#[1, 2, 3, 4, 5]⟩).2.1, ValueType.Accepts,
      if_neg (by decide)]
    decide

end Payload

end Federation
