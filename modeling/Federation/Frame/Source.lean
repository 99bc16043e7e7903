/-
Federation/Frame/Source.lean

Where frames come from.

A `FrameSource` gives frames one after another until a read fails. Each frame
makes it smaller by some measure, so whoever reads until the end comes to the
end.

There are two of them: a block of bytes with a place in it, and a list of frames
with the failure that ends it. `Cursor.frames` is the second for the first: the
frames that the bytes hold, and why there are no more.
-/
import Federation.Frame.Decode

namespace Federation

/-- Something that frames can be read from, one after another. -/
class FrameSource (σ : Type) where
  /-- The next frame, or why there is none, and the source after the attempt. -/
  next : σ → Except FrameError Frame × σ
  /-- A bound for the number of frames. -/
  size : σ → Nat
  size_lt_of_next : ∀ {s s' : σ} {f : Frame},
    next s = (.ok f, s') → size s' < size s

/-- What comes in over a connection: the frames in order, and the failure of the
read after the last of them. -/
@[ext] structure FrameStream where
  frames : List Frame
  ending : FrameError := .io .endOfInput
deriving DecidableEq

namespace FrameStream

/-- Takes the next frame off the stream. -/
def next : FrameStream → Except FrameError Frame × FrameStream
  | ⟨f :: fs, ending⟩ => (.ok f, ⟨fs, ending⟩)
  | ⟨[], ending⟩ => (.error ending, ⟨[], ending⟩)

/-- A frame that is taken is gone from the stream. -/
theorem length_lt_of_next {s s' : FrameStream} {f : Frame}
    (h : s.next = (.ok f, s')) :
    s'.frames.length < s.frames.length := by
  obtain ⟨frames, ending⟩ := s
  cases frames with
  | nil => cases h
  | cons g gs =>
    cases h
    exact Nat.lt_succ_self _

instance : FrameSource FrameStream where
  next := next
  size s := s.frames.length
  size_lt_of_next := length_lt_of_next

end FrameStream

namespace Cursor

/-- Reads the next frame of a block. -/
def next (c : Cursor) : Except FrameError Frame × Cursor :=
  match Frame.reader c with
  | .ok f c' => (.ok f, c')
  | .error e c' => (.error e, c')

/-- A frame that is read takes some of the bytes that remain. -/
theorem remaining_lt_of_next {c c' : Cursor} {f : Frame}
    (h : c.next = (.ok f, c')) :
    c'.remaining < c.remaining := by
  unfold next at h
  split at h
  · cases h
    exact Frame.lt_of_next (by assumption)
  · cases h

instance : FrameSource Cursor where
  next := next
  size := remaining
  size_lt_of_next := remaining_lt_of_next

/-- The frames of a block from the place on, and the failure that ends them. -/
def frames (c : Cursor) : FrameStream :=
  match h : c.next with
  | (.ok f, c') =>
    have := remaining_lt_of_next h
    let rest := c'.frames
    { rest with frames := f :: rest.frames }
  | (.error e, _) => ⟨[], e⟩
termination_by c.remaining

end Cursor

end Federation
