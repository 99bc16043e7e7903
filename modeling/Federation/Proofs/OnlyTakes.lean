/-
Federation/Proofs/OnlyTakes.lean

What a reader can have taken.

    OnlyTakes r P

says of a reader what `Takes r b x` does not: that there are no other bytes
which it would take. Wherever it stands, if it gives a value `a`, then it took
some bytes `b` off the front of what was left, it stands behind them now, and
`P a b` holds. So with `P` as narrow as "the encoding of `a`" a value has one
spelling only.

Readers one after another are put together by `OnlyTakes.bind`, which carries
what is known of the first value to the second reader. All numbers of fixed
width have one spelling, as reading and then writing gives the bytes back: by
`LittleEndian.encode_decode` for the naturals, and by `encodeInt_decodeInt` for
the integers in two's complement.
-/
import Mathlib
import Federation.Proofs.Takes

namespace Federation

/-! ### Integers in two's complement -/

namespace LittleEndian

theorem decode_lt (b : ByteArray) : decode b < capacity b.size := by
  rw [decode, ← ByteArray.size_data, ← Array.length_toList]
  exact value_lt b.data.toList

theorem decodeInt_bounds (b : ByteArray) :
    -(capacity b.size : Int) ≤ 2 * decodeInt b ∧
      2 * decodeInt b < (capacity b.size : Int) := by
  have hlt := decode_lt b
  unfold decodeInt
  dsimp only
  split <;> omega

/-- Bytes that were read as an integer are written again as they stood. -/
theorem encodeInt_decodeInt (b : ByteArray) :
    encodeInt b.size (decodeInt b) = b := by
  have hlt : (decode b : Int) < capacity b.size := Int.ofNat_lt.mpr (decode_lt b)
  -- the integer is the natural number, or that less the capacity
  have hmod : decodeInt b % (capacity b.size : Int) = decode b := by
    unfold decodeInt
    dsimp only
    split
    · exact Int.emod_eq_of_lt (Int.natCast_nonneg _) hlt
    · rw [Int.sub_emod_right]
      exact Int.emod_eq_of_lt (Int.natCast_nonneg _) hlt
  rw [encodeInt, hmod, Int.toNat_natCast, encode_decode]

end LittleEndian

namespace Reader

open LittleEndian

variable {α β : Type}

/-! ### Readers one after another -/

/-- Whenever the reader gives a value, it has taken bytes that `P` allows for
it, and no more. -/
def OnlyTakes (r : Reader α) (P : α → ByteArray → Prop) : Prop :=
  ∀ before after ending a c, r (.between before after ending) = .ok a c →
    ∃ b rest, after = b ++ rest ∧ c = .between (before ++ b) rest ending ∧ P a b

variable {r : Reader α} {P : α → ByteArray → Prop}

theorem OnlyTakes.mono {Q : α → ByteArray → Prop} (h : OnlyTakes r P)
    (hPQ : ∀ a b, P a b → Q a b) : OnlyTakes r Q := by
  intro before after ending a c hread
  obtain ⟨b, rest, hafter, hc, hP⟩ := h before after ending a c hread
  exact ⟨b, rest, hafter, hc, hPQ a b hP⟩

theorem onlyTakes_pure {a : α} (h : P a .empty) :
    OnlyTakes (pure a : Reader α) P := by
  intro before after ending x c hread
  cases hread
  refine ⟨.empty, after, ByteArray.empty_append.symm, ?_, h⟩
  rw [ByteArray.append_empty]

theorem onlyTakes_throw (e : FrameError) : OnlyTakes (throw e : Reader α) P := by
  intro before after ending x c hread
  cases hread

/-- The second reader takes what is to stand behind the bytes of the first. -/
theorem OnlyTakes.bind {k : α → Reader β} {Q : β → ByteArray → Prop}
    (hr : OnlyTakes r P)
    (hk : ∀ a b, P a b → OnlyTakes (k a) fun x b' => Q x (b ++ b')) :
    OnlyTakes (r >>= k) Q := by
  intro before after ending x c hread
  obtain ⟨a, c₁, hfirst, hsecond⟩ := bind_eq_ok hread
  obtain ⟨b, rest, rfl, rfl, hP⟩ := hr before after ending a c₁ hfirst
  obtain ⟨b', rest', rfl, rfl, hQ⟩ :=
    hk a b hP (before ++ b) rest ending x c hsecond
  refine ⟨b ++ b', rest', ?_, ?_, hQ⟩
  · rw [ByteArray.append_assoc]
  · rw [ByteArray.append_assoc]

/-- What becomes of the value at the end takes no bytes. -/
theorem OnlyTakes.bind_pure {f : α → β} {Q : β → ByteArray → Prop}
    (hr : OnlyTakes r P) (h : ∀ a b, P a b → Q (f a) b) :
    OnlyTakes (r >>= fun a => pure (f a)) Q := by
  refine hr.bind fun a b hP => onlyTakes_pure ?_
  rw [ByteArray.append_empty]
  exact h a b hP

theorem OnlyTakes.map {f : α → β} {Q : β → ByteArray → Prop} (hr : OnlyTakes r P)
    (h : ∀ a b, P a b → Q (f a) b) : OnlyTakes (f <$> r) Q :=
  hr.bind_pure h

theorem onlyTakes_take (n : Nat) :
    OnlyTakes (take n) fun a b => b = a ∧ b.size = n := by
  intro before after ending a c hread
  have hle : n ≤ after.size := by
    by_contra hlt
    rw [take_of_remaining_lt (by rw [Cursor.remaining_between]; omega)] at hread
    cases hread
  obtain ⟨b, rest, rfl, rfl⟩ : ∃ b rest, after = b ++ rest ∧ b.size = n := by
    refine ⟨after.extract 0 n, after.extract n after.size, ?_, ?_⟩
    · rw [ByteArray.extract_append_extract, Nat.zero_min, Nat.max_eq_right hle,
        ByteArray.extract_zero_size]
    · rw [ByteArray.size_extract, Nat.min_eq_left hle, Nat.sub_zero]
  rw [takes_take b before rest ending] at hread
  cases hread
  exact ⟨_, rest, rfl, rfl, rfl, rfl⟩

/-- A row of values is the row of their spellings. -/
theorem onlyTakes_times {encode : α → ByteArray} {p : α → Prop}
    (h : OnlyTakes r fun a b => b = encode a ∧ p a) (n : Nat) :
    OnlyTakes (times n r) fun as b =>
      b = Bytes.concat (as.map encode) ∧ as.length = n ∧ ∀ a ∈ as, p a := by
  induction n with
  | zero => exact onlyTakes_pure ⟨rfl, rfl, by simp⟩
  | succ n ih =>
    refine h.bind ?_
    rintro a b ⟨rfl, ha⟩
    refine ih.bind_pure ?_
    rintro as b ⟨rfl, hlength, has⟩
    refine ⟨?_, ?_, List.forall_mem_cons.mpr ⟨ha, has⟩⟩
    · rw [List.map_cons, Bytes.concat_cons]
    · rw [List.length_cons, hlength]

/-! ### Fields of fixed width -/

theorem onlyTakes_nat (width : Nat) :
    OnlyTakes (nat width) fun n b => b = encode width n ∧ n < capacity width := by
  refine (onlyTakes_take width).map ?_
  rintro a b ⟨rfl, rfl⟩
  exact ⟨(encode_decode b).symm, decode_lt b⟩

theorem onlyTakes_int (width : Nat) :
    OnlyTakes (int width) fun n b =>
      b = encodeInt width n ∧ -(capacity width : Int) ≤ 2 * n ∧
        2 * n < (capacity width : Int) := by
  refine (onlyTakes_take width).map ?_
  rintro a b ⟨rfl, rfl⟩
  exact ⟨(encodeInt_decodeInt b).symm, decodeInt_bounds b⟩

theorem onlyTakes_byte : OnlyTakes byte fun n b => b = encode 1 n.toNat := by
  refine (onlyTakes_nat 1).map ?_
  rintro n b ⟨rfl, hn⟩
  rw [UInt8.toNat_ofNat_of_lt' hn]

theorem onlyTakes_word : OnlyTakes word fun n b => b = encode 2 n.toNat := by
  refine (onlyTakes_nat 2).map ?_
  rintro n b ⟨rfl, hn⟩
  rw [UInt16.toNat_ofNat_of_lt' hn]

theorem onlyTakes_federate :
    OnlyTakes federate fun f b => b = encode 2 f.number.toNat :=
  onlyTakes_word.map fun _ _ h => h

theorem onlyTakes_port :
    OnlyTakes Reader.port fun p b => b = encode 2 p.number.toNat :=
  onlyTakes_word.map fun _ _ h => h

theorem onlyTakes_long :
    OnlyTakes (int 8) fun n b => b = encodeInt 8 n ∧ Nanos.InRange n := by
  refine (onlyTakes_int 8).mono ?_
  rintro n b ⟨rfl, hlo, hhi⟩
  have hcapacity := capacity_eight
  exact ⟨rfl, by omega, by omega⟩

theorem onlyTakes_instant : OnlyTakes instant fun t b => b = encodeInt 8 t.ns := by
  refine onlyTakes_long.map ?_
  rintro n b ⟨rfl, hn⟩
  exact congrArg (encodeInt 8) (Nanos.clamp_of_inRange hn).symm

theorem onlyTakes_tag : OnlyTakes Reader.tag fun t b => b = Frame.encodeTag t := by
  refine onlyTakes_instant.bind ?_
  rintro time b rfl
  refine (onlyTakes_nat 4).bind_pure ?_
  rintro n b ⟨rfl, hn⟩
  rw [Frame.encodeTag, UInt32.toNat_ofNat_of_lt' hn]

end Reader

end Federation
