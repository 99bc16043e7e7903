/-
Federation/Proofs/Takes.lean

What a reader takes off the front.

    Takes r b x

says that wherever the bytes `b` stand, whatever stands before and behind them,
the reader `r` takes exactly these bytes and ends with `x`, a value or a
failure. A reader that takes a value can be followed by another one
(`Takes.bind`), so each composite field takes the bytes that its parts take one
after another, and a frame is never read beyond its end.

The fields of fixed width come first. What was written as a number is read as
the same number: from `LittleEndian.decode_encode` for the naturals, and from
`decodeInt_encodeInt` for the integers in two's complement. Likewise text is
read from its bytes, and from no others.
-/
import Mathlib
import Federation.Bytes.Concat
import Federation.Frame.Encode
import Federation.Frame.Decode

namespace Federation

/-! ### Integers in two's complement -/

namespace LittleEndian

theorem size_encodeInt (width : Nat) (n : Int) :
    (encodeInt width n).size = width := by
  rw [encodeInt, size_encode]

/-- An integer that fits in its width is read as it was written. -/
theorem decodeInt_encodeInt {width : Nat} {n : Int}
    (hlo : -(capacity width : Int) ≤ 2 * n)
    (hhi : 2 * n < (capacity width : Int)) :
    decodeInt (encodeInt width n) = n := by
  have hpos : (0 : Int) < capacity width := by omega
  have hnonneg : 0 ≤ n % (capacity width : Int) := Int.emod_nonneg n hpos.ne'
  have hlt : n % (capacity width : Int) < capacity width :=
    Int.emod_lt_of_pos n hpos
  have hdecode : (decode (encodeInt width n) : Int) = n % capacity width := by
    rw [encodeInt, decode_encode (by omega), Int.toNat_of_nonneg hnonneg]
  rw [decodeInt, size_encodeInt]
  -- the digits are those of `n` itself, or of `n + capacity width` if `n` is
  -- negative
  rcases lt_or_ge n 0 with hneg | hge
  · have hmod : n % (capacity width : Int) = n + capacity width := by
      rw [← Int.add_emod_right, Int.emod_eq_of_lt (by omega) (by omega)]
    split <;> omega
  · have hmod : n % (capacity width : Int) = n := Int.emod_eq_of_lt hge (by omega)
    split <;> omega

end LittleEndian

/-! ### Text as UTF-8 -/

theorem toByteArray_of_fromUTF8? {b : ByteArray} {s : String}
    (h : String.fromUTF8? b = some s) :
    s.toByteArray = b := by
  unfold String.fromUTF8? at h
  split at h
  · cases h
    rfl
  · cases h

theorem fromUTF8?_toByteArray (s : String) :
    String.fromUTF8? s.toByteArray = some s := by
  rw [String.fromUTF8?, dif_pos s.isValidUTF8]
  rfl

/-! ### Places in a block -/

namespace Cursor

/-- The place with `before` in front of it and `after` behind it. -/
def between (before after : ByteArray) (ending : IoError) : Cursor :=
  ⟨before ++ after, before.size, ending⟩

theorem between_empty (bytes : ByteArray) (ending : IoError) :
    between .empty bytes ending = { bytes, ending } := by
  rw [between, ByteArray.empty_append, ByteArray.size_empty]

theorem remaining_between (before after : ByteArray) (ending : IoError) :
    (between before after ending).remaining = after.size := by
  simp [between, remaining]

@[simp] theorem rest_between (before after : ByteArray) (ending : IoError) :
    (between before after ending).rest = after := by
  have h :=
    ByteArray.extract_append_size_add (a := before) (b := after) (i := 0)
      (j := after.size)
  rw [Nat.add_zero, ByteArray.extract_zero_size] at h
  rw [between, rest, ByteArray.size_append, h]

end Cursor

namespace Reader

open LittleEndian

variable {α β : Type}

/-! ### Readers one after another -/

/-- The end of a reader at a place. -/
def endAt : Except FrameError α → Cursor → EStateM.Result FrameError Cursor α
  | .ok a, c => .ok a c
  | .error e, c => .error e c

/-- The reader takes exactly the bytes `b` and ends with `x`. -/
def Takes (r : Reader α) (b : ByteArray) (x : Except FrameError α) : Prop :=
  ∀ before after ending,
    r (.between before (b ++ after) ending)
      = endAt x (.between (before ++ b) after ending)

theorem takes_pure (a : α) : Takes (pure a : Reader α) .empty (.ok a) := by
  intro before after ending
  rw [ByteArray.empty_append, ByteArray.append_empty]
  rfl

theorem takes_throw (e : FrameError) :
    Takes (throw e : Reader α) .empty (.error e) := by
  intro before after ending
  rw [ByteArray.empty_append, ByteArray.append_empty]
  rfl

theorem Takes.bind {r : Reader α} {k : α → Reader β} {b b' : ByteArray} {a : α}
    {x : Except FrameError β} (hr : Takes r b (.ok a)) (hk : Takes (k a) b' x) :
    Takes (r >>= k) (b ++ b') x := by
  intro before after ending
  rw [ByteArray.append_assoc, bind_of_ok (hr before (b' ++ after) ending),
    ← ByteArray.append_assoc]
  exact hk (before ++ b) after ending

/-- What becomes of the value at the end takes no bytes. -/
theorem Takes.bind_pure {r : Reader α} {b : ByteArray} {a : α} (f : α → β)
    (h : Takes r b (.ok a)) : Takes (r >>= fun a => pure (f a)) b (.ok (f a)) := by
  have hbind := h.bind (k := fun a => pure (f a)) (takes_pure (f a))
  rwa [ByteArray.append_empty] at hbind

theorem Takes.map {r : Reader α} {b : ByteArray} {a : α} (f : α → β)
    (h : Takes r b (.ok a)) :
    Takes (f <$> r) b (.ok (f a)) := h.bind_pure f

theorem takes_take (b : ByteArray) : Takes (take b.size) b (.ok b) := by
  intro before after ending
  have hle : b.size ≤ (Cursor.between before (b ++ after) ending).remaining := by
    rw [Cursor.remaining_between, ByteArray.size_append]
    exact Nat.le_add_right _ _
  have hfront :
      (before ++ (b ++ after)).extract before.size (before.size + b.size) = b := by
    have h :=
      ByteArray.extract_append_size_add (a := before) (b := b ++ after) (i := 0)
      (j := b.size)
    rwa [Nat.add_zero, ByteArray.extract_append_eq_left rfl] at h
  rw [take, if_pos hle]
  simp only [Cursor.between, hfront, endAt, ByteArray.append_assoc,
    ByteArray.size_append]

/-- Where too few bytes are left the reader meets the end. -/
theorem take_of_remaining_lt {n : Nat} {c : Cursor} (h : c.remaining < n) :
    take n c = .error (.io c.ending)
      { c with position := max c.position c.bytes.size } := by
  rw [take, if_neg (Nat.not_le.mpr h)]

/-- As many values as were written are read, each as it reads by itself. -/
theorem takes_times {r : Reader β} {encode : α → ByteArray} {g : α → β}
    (h : ∀ a, Takes r (encode a) (.ok (g a))) (as : List α) :
    Takes (times as.length r) (Bytes.concat (as.map encode)) (.ok (as.map g)) := by
  induction as with
  | nil => exact takes_pure []
  | cons a as ih =>
    rw [List.map_cons, Bytes.concat_cons]
    exact (h a).bind (ih.bind_pure (g a :: ·))

/-! ### Fields of fixed width -/

theorem takes_nat {width n : Nat} (h : n < capacity width) :
    Takes (nat width) (encode width n) (.ok n) := by
  have htake := (takes_take (encode width n)).map LittleEndian.decode
  rwa [size_encode, decode_encode h] at htake

theorem takes_int {width : Nat} {n : Int} (hlo : -(capacity width : Int) ≤ 2 * n)
    (hhi : 2 * n < (capacity width : Int)) :
    Takes (int width) (encodeInt width n) (.ok n) := by
  have htake := (takes_take (encodeInt width n)).map LittleEndian.decodeInt
  rwa [size_encodeInt, decodeInt_encodeInt hlo hhi] at htake

theorem takes_byte (n : UInt8) : Takes byte (encode 1 n.toNat) (.ok n) := by
  have h := (takes_nat (show n.toNat < capacity 1 from n.toNat_lt)).map UInt8.ofNat
  rwa [UInt8.ofNat_toNat] at h

theorem takes_word (n : UInt16) : Takes word (encode 2 n.toNat) (.ok n) := by
  have h := (takes_nat (show n.toNat < capacity 2 from n.toNat_lt)).map UInt16.ofNat
  rwa [UInt16.ofNat_toNat] at h

theorem takes_federate (f : FederateId) :
    Takes federate (encode 2 f.number.toNat) (.ok f) :=
  (takes_word f.number).map FederateId.mk

theorem takes_port (p : PortId) :
    Takes Reader.port (encode 2 p.number.toNat) (.ok p) :=
  (takes_word p.number).map PortId.mk

theorem takes_long {n : Int} (h : Nanos.InRange n) :
    Takes (int 8) (encodeInt 8 n) (.ok n) := by
  obtain ⟨hlo, hhi⟩ := h
  have hcapacity := capacity_eight
  exact takes_int (by omega) (by omega)

theorem takes_instant (t : Instant) : Takes instant (encodeInt 8 t.ns) (.ok t) := by
  have h := (takes_long t.inRange).map Instant.clamp
  rwa [show Instant.clamp t.ns = t
    from Instant.ext (Nanos.clamp_of_inRange t.inRange)] at h

theorem takes_tag (t : Tag) : Takes Reader.tag (Frame.encodeTag t) (.ok t) := by
  have hmicro :=
    (takes_nat
      (show t.microstep.toNat < capacity 4 from t.microstep.toNat_lt)).bind_pure
    fun n => (⟨t.time, UInt32.ofNat n⟩ : Tag)
  rw [UInt32.ofNat_toNat] at hmicro
  exact (takes_instant t.time).bind hmicro

end Reader

end Federation
