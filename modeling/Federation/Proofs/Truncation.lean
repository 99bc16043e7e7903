/-
Federation/Proofs/Truncation.lean

Where a frame ends is written in the frame.

A reader of frames cannot look ahead: sizes and counts stand in front of what
they count, and each of them is checked as soon as it is read. So the bytes that
were taken for a frame decide on it by themselves (`SelfDelimiting`): whatever
follows them, they are taken for the same frame again, and none of what follows
is touched; and where some of them are missing at the end, the reader does not
find anything wrong with those that are there, but meets the end of the block
(`Starves`). Hence a connection that breaks off within a frame looks like one
that was closed, and never like one that breaks the protocol.

Design: nothing of this is about frames. It holds of `take`, of values and of
failures, and one reader after another keeps it (`Starves.bind`). So it holds of
whatever is made of these (`Made.selfDelimiting`), and `Frame.reader` is.
-/
import Mathlib
import Federation.Proofs.OnlyTakes

namespace Federation

/-! ### The front of a block -/

namespace Bytes

variable {a b : ByteArray} {n : Nat}

/-- A front of two blocks that is no longer than the first is a front of the
first. -/
theorem extract_append_of_le (h : n ≤ a.size) :
    (a ++ b).extract 0 n = a.extract 0 n := by
  rw [ByteArray.extract_append, Nat.sub_eq_zero_of_le h, Nat.zero_sub,
    ByteArray.extract_same, ByteArray.append_empty]

/-- A front of two blocks that reaches beyond the first is the first and a front
of the second. -/
theorem extract_append_add :
    (a ++ b).extract 0 (a.size + n) = a ++ b.extract 0 n := by
  have hfirst : a.extract 0 (a.size + n) = a := by
    rw [← Nat.max_eq_left (Nat.le_add_right a.size n),
      ByteArray.extract_zero_max_size]
  rw [ByteArray.extract_append, hfirst, Nat.zero_sub, Nat.add_sub_cancel_left]

end Bytes

namespace Reader

variable {α β : Type} {r : Reader α} {k : α → Reader β} {b b' : ByteArray} {a : α}

/-- Whether the reader meets the end of the block wherever only a part of the
bytes is left. -/
def Starves (r : Reader α) (b : ByteArray) : Prop :=
  ∀ n < b.size, ∀ before ending, ∃ c,
    r (.between before (b.extract 0 n) ending) = .error (.io ending) c

/-- Whether the bytes that the reader takes for a value decide on it: wherever
they stand they are taken for the same value, and where some are missing the
reader meets the end. -/
def SelfDelimiting (r : Reader α) : Prop :=
  OnlyTakes r fun a b => Takes r b (.ok a) ∧ Starves r b

/-! ### The parts that readers are made of -/

theorem starves_empty (r : Reader α) : Starves r .empty := by
  intro n hn
  exact absurd hn (Nat.not_lt_zero n)

theorem starves_take (b : ByteArray) : Starves (take b.size) b := by
  intro n hn before ending
  have hshort :
      (Cursor.between before (b.extract 0 n) ending).remaining < b.size := by
    rw [Cursor.remaining_between, ByteArray.size_extract]
    omega
  exact ⟨_, take_of_remaining_lt hshort⟩

/-! ### One reader after another -/

/-- Behind the bytes of the first reader the second one goes on. -/
theorem Takes.bind_between (h : Takes r b (.ok a)) (before after : ByteArray)
    (ending : IoError) :
    (r >>= k) (.between before (b ++ after) ending)
      = k a (.between (before ++ b) after ending) := by
  rw [bind_of_ok (h before after ending)]

/-- Part of the bytes of two readers is part of those of the first, or these and
part of those of the second. -/
theorem Starves.bind (htakes : Takes r b (.ok a)) (hr : Starves r b)
    (hk : Starves (k a) b') :
    Starves (r >>= k) (b ++ b') := by
  intro n hn before ending
  rw [ByteArray.size_append] at hn
  rcases Nat.lt_or_ge n b.size with hlt | hge
  · obtain ⟨c, hc⟩ := hr n hlt before ending
    rw [Bytes.extract_append_of_le hlt.le]
    exact ⟨c, bind_of_error hc⟩
  · obtain ⟨m, rfl⟩ := Nat.exists_eq_add_of_le hge
    obtain ⟨c, hc⟩ := hk m (by omega) (before ++ b) ending
    rw [Bytes.extract_append_add, htakes.bind_between]
    exact ⟨c, hc⟩

/-- What is made of self-delimiting parts is self-delimiting. -/
theorem Made.selfDelimiting (h : Made r) : SelfDelimiting r := by
  induction h with
  | pure a => exact onlyTakes_pure ⟨takes_pure a, starves_empty _⟩
  | throw e => exact onlyTakes_throw e
  | take n =>
    refine (onlyTakes_take n).mono ?_
    rintro a b ⟨rfl, rfl⟩
    exact ⟨takes_take b, starves_take b⟩
  | bind _ _ hr hk =>
    apply hr.bind
    rintro a b ⟨htakes, hstarves⟩
    apply (hk a).mono
    rintro x b' ⟨htakes', hstarves'⟩
    exact ⟨htakes.bind htakes', hstarves.bind htakes hstarves'⟩

end Reader

namespace Frame

open Reader

/-! ### Frames -/

/-- **Where a frame ends is written in the frame.** If a frame is read from a
block, it takes at least one of its bytes. On every proper part of the bytes
that it takes, the empty one as well, the reader meets the end of the input,
which means that the other side went away; and on every block that begins with
these bytes it gives the same frame and stops behind them. -/
theorem read_decided_by_bytes {bytes : ByteArray} {ending : IoError} {f : Frame}
    {c : Cursor} (h : reader { bytes, ending } = .ok f c) :
    0 < c.position ∧ c.position ≤ bytes.size ∧
    (∀ n < c.position, ∃ e c', reader { bytes := bytes.extract 0 n } = .error e c' ∧
      e = .io .endOfInput ∧ e.isDisconnect = true) ∧
    ∀ more, reader { bytes := bytes.extract 0 c.position ++ more } =
      .ok f { bytes := bytes.extract 0 c.position ++ more
              position := c.position } := by
  rw [← Cursor.between_empty] at h
  have hforward := lt_of_next h
  -- what the reader took is all that it looked at
  obtain ⟨taken, rest, rfl, rfl, htakes, hstarves⟩ :=
    made_reader.selfDelimiting _ _ _ _ _ h
  rw [Cursor.remaining_between, Cursor.remaining_between, ByteArray.size_append]
    at hforward
  have hposition :
      (Cursor.between (.empty ++ taken) rest ending).position = taken.size := by
    rw [ByteArray.empty_append, Cursor.between]
  have htaken : (taken ++ rest).extract 0 taken.size = taken :=
    ByteArray.extract_append_eq_left rfl
  rw [hposition, htaken]
  refine ⟨by omega, ?_, ?_, ?_⟩
  · rw [ByteArray.size_append]
    exact Nat.le_add_right _ _
  · intro n hn
    obtain ⟨c', hc'⟩ := hstarves n hn .empty .endOfInput
    rw [Cursor.between_empty] at hc'
    rw [Bytes.extract_append_of_le hn.le]
    exact ⟨_, c', hc', rfl, rfl⟩
  · intro more
    have hread := htakes .empty more .endOfInput
    rw [Cursor.between_empty, ByteArray.empty_append] at hread
    exact hread

/-- A list of neighbours with one upstream federate and none downstream, and the
first byte of another frame. -/
def listAndMore : ByteArray :=
  [24, 1, 0, 0, 0, 0, 0, 0, 0, 7, 0, 10, 0, 0, 0, 0, 0, 0, 0, 255].toByteArray

/-- The list is read from its 19 bytes, and 12 of them are an end of input
within a delay. -/
theorem read_decided_by_bytes_of_list :
    (∃ c, reader { bytes := listAndMore }
      = .ok (.neighborStructure ⟨[(⟨7⟩, some ⟨10, by decide⟩)], []⟩) c ∧
        c.position = 19) ∧
    (∃ c',
      reader { bytes := listAndMore.extract 0 12 } = .error (.io .endOfInput) c') ∧
    ∃ c', reader { bytes := .empty } = .error (.io .endOfInput) c' := by
  have hread : reader { bytes := listAndMore }
      = .ok (.neighborStructure ⟨[(⟨7⟩, some ⟨10, by decide⟩)], []⟩)
        { bytes := listAndMore, position := 19 } := rfl
  obtain ⟨-, -, hcut, -⟩ := read_decided_by_bytes hread
  refine ⟨⟨_, hread, rfl⟩, ?_, ?_⟩
  · obtain ⟨e, c', hc', rfl, -⟩ := hcut 12 (by decide)
    exact ⟨c', hc'⟩
  · obtain ⟨e, c', hc', rfl, -⟩ := hcut 0 (by decide)
    exact ⟨c', hc'⟩

end Frame

end Federation
