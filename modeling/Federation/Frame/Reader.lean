/-
Federation/Frame/Reader.lean

Reading from a block of bytes.

A `Cursor` is a place in a block of bytes, and a `Reader` takes what it needs
from there: it gives a value and the place behind it, or a failure and the place
that it reached. What happens at the end of the block is part of the cursor: for
most inputs it is the end of the input, for a connection that stays open and
silent it may be another failure.

All readers of this library are made of `Reader.take`, of values and of failures
(`Reader.Made`), so what these have in common and a step after a step keeps is
true of all of them. A reader that succeeds leaves a cursor of the same block
that is not before the one it was given (`Reader.Forward`).
-/
import Federation.Bytes.Concat
import Federation.Bytes.LittleEndian
import Federation.Frame.Error
import Federation.Time.Tag
import Federation.Identifier

namespace Federation

/-- A place in a block of bytes, and what happens at its end. -/
@[ext] structure Cursor where
  bytes : ByteArray
  /-- The number of bytes before the place. -/
  position : Nat := 0
  /-- The failure of a read that goes beyond the end. -/
  ending : IoError := .endOfInput
deriving DecidableEq

namespace Cursor

/-- The number of bytes from the place to the end. -/
def remaining (c : Cursor) : Nat := c.bytes.size - c.position

/-- The bytes from the place to the end. -/
def rest (c : Cursor) : ByteArray := c.bytes.extract c.position c.bytes.size

end Cursor

/-- A program that takes a value from the front of what remains. -/
abbrev Reader := EStateM FrameError Cursor

namespace Reader

variable {α β : Type}

/-- Takes `n` bytes. If there are fewer, takes them all and fails. -/
def take (n : Nat) : Reader ByteArray := fun c =>
  if n ≤ c.remaining then
    .ok (c.bytes.extract c.position (c.position + n))
      { c with position := c.position + n }
  else
    .error (.io c.ending) { c with position := max c.position c.bytes.size }

/-- Takes a natural number of `width` bytes. -/
def nat (width : Nat) : Reader Nat := LittleEndian.decode <$> take width

/-- Takes an integer of `width` bytes, in two's complement. -/
def int (width : Nat) : Reader Int := LittleEndian.decodeInt <$> take width

/-- Takes a byte. -/
def byte : Reader UInt8 := UInt8.ofNat <$> nat 1

/-- Takes a number of two bytes. -/
def word : Reader UInt16 := UInt16.ofNat <$> nat 2

/-- Takes the number of a federate. -/
def federate : Reader FederateId := FederateId.mk <$> word

/-- Takes the number of a port. -/
def port : Reader PortId := PortId.mk <$> word

/-- Takes an instant. -/
def instant : Reader Instant := Instant.clamp <$> int 8

/-- Takes a tag. -/
def tag : Reader Tag := do
  let time ← instant
  let microstep ← nat 4
  return ⟨time, UInt32.ofNat microstep⟩

/-- Takes `n` values, one after another. -/
def times : Nat → Reader α → Reader (List α)
  | 0, _ => pure []
  | n + 1, r => do
    let a ← r
    let as ← times n r
    return a :: as

/-! ### One reader after another -/

section Bind

variable {r : Reader α} {k : α → Reader β} {c c' : Cursor} {a : α} {b : β}
  {e : FrameError}

/-- Where the first reader gives a value, the second one goes on from there. -/
theorem bind_of_ok (h : r c = .ok a c') : (r >>= k) c = k a c' := by
  change EStateM.bind r k c = _
  rw [EStateM.bind, h]

/-- Where the first reader fails, there is no second one. -/
theorem bind_of_error (h : r c = .error e c') : (r >>= k) c = .error e c' := by
  change EStateM.bind r k c = _
  rw [EStateM.bind, h]

/-- Where a reader fails, there is nothing to apply a function to. -/
theorem map_of_error (f : α → β) (h : r c = .error e c') :
    (f <$> r) c = .error e c' :=
  bind_of_error h

/-- Two readers that give a value together give one each. -/
theorem bind_eq_ok (h : (r >>= k) c = .ok b c') :
    ∃ a c₁, r c = .ok a c₁ ∧ k a c₁ = .ok b c' := by
  rcases hr : r c with ⟨a, c₁⟩ | ⟨e, c₁⟩
  · rw [bind_of_ok hr] at h
    exact ⟨a, c₁, rfl, h⟩
  · rw [bind_of_error hr] at h
    cases h

end Bind

/-! ### Readers go forward -/

/-- Whether the reader, when it succeeds, stays in the block and does not go
back. -/
def Forward (r : Reader α) : Prop :=
  ∀ c a c', r c = .ok a c' → c'.bytes = c.bytes ∧ c'.ending = c.ending ∧ c.position
    ≤ c'.position ∧ (c.position ≤ c.bytes.size → c'.position ≤ c.bytes.size)

theorem forward_pure (a : α) : Forward (pure a : Reader α) := by
  rintro c a c' h
  cases h
  exact ⟨rfl, rfl, Nat.le_refl _, id⟩

theorem forward_throw (e : FrameError) : Forward (throw e : Reader α) := by
  rintro c a c' h
  cases h

/-- Two readers that go forward go forward together. -/
theorem Forward.bind {r : Reader α} {k : α → Reader β} (hr : Forward r)
    (hk : ∀ a, Forward (k a)) :
    Forward (r >>= k) := by
  rintro c b c' h
  obtain ⟨a, c₁, h₁, h₂⟩ := bind_eq_ok h
  obtain ⟨hb, he, hp, hs⟩ := hr c a c₁ h₁
  obtain ⟨hb', he', hp', hs'⟩ := hk a c₁ b c' h₂
  exact ⟨hb'.trans hb, he'.trans he, Nat.le_trans hp hp',
    fun h => hb ▸ hs' (hb ▸ hs h)⟩

/-- What is taken is there, so the place does not pass the end. -/
theorem forward_take (n : Nat) : Forward (take n) := by
  rintro c a c' h
  unfold take Cursor.remaining at h
  split at h
  · cases h
    exact ⟨rfl, rfl, by simp, by simp only; omega⟩
  · cases h

/-! ### What readers are made of -/

/-- The readers that are made of `take`, of values and of failures, one after
another. What a reader finds wrong with the bytes does not mean that the other
side went away. -/
inductive Made : {α : Type} → Reader α → Prop
  | pure {α : Type} (a : α) : Made (pure a : Reader α)
  | throw {α : Type} (e : FrameError) (h : e.isDisconnect = false) :
      Made (throw e : Reader α)
  | take (n : Nat) : Made (take n)
  | bind {α β : Type} {r : Reader α} {k : α → Reader β} (hr : Made r)
      (hk : ∀ a, Made (k a)) :
      Made (r >>= k)

/-- A function of what is read needs no reader of its own. -/
theorem Made.map {r : Reader α} (f : α → β) (hr : Made r) : Made (f <$> r) :=
  hr.bind fun a => .pure (f a)

/-- Neither does a row of so many values. -/
theorem Made.times {r : Reader α} (hr : Made r) (n : Nat) : Made (times n r) := by
  induction n with
  | zero => exact .pure []
  | succ n ih => exact hr.bind fun a => ih.bind fun as => .pure (a :: as)

/-- Whatever is made of these parts goes forward, as each of them does. -/
theorem Made.forward {r : Reader α} (h : Made r) : Forward r := by
  induction h with
  | pure a => exact forward_pure a
  | throw e => exact forward_throw e
  | take n => exact forward_take n
  | bind _ _ hr hk => exact hr.bind hk

end Reader

end Federation
