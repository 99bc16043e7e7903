/-
Federation/Link/Inflow.lean

What comes in over a connection that is still open.

Bytes come in pieces, and a piece may end in the middle of a frame. An `Inflow`
keeps the frames that are complete and that nobody has taken yet, and the bytes
behind them. As long as the connection is open, a read behind the last frame is
starved: more may come.
-/
import Federation.Frame.Source

namespace Federation

/-- The place behind so many frames. -/
def Cursor.skip : Nat → Cursor → Cursor
  | 0, c => c
  | n + 1, c => skip n c.next.2

/-- What has come in over a connection. -/
structure Inflow where
  /-- The complete frames that nobody has taken. -/
  frames : List Frame := []
  /-- The bytes behind them. -/
  rest : ByteArray := .empty
  /-- Why no more frames come. -/
  ending : Option FrameError := none

namespace Inflow

/-- One more piece comes in. -/
def feed (i : Inflow) (bytes : ByteArray) : Inflow :=
  match i.ending with
  | some _ => i
  | none =>
    let c : Cursor := { bytes := i.rest ++ bytes }
    let stream := c.frames
    { frames := i.frames ++ stream.frames
      rest := (c.skip stream.frames.length).rest
      ending := if stream.ending = .io .endOfInput then none
        else some stream.ending }

/-- The connection ends. -/
def close (i : Inflow) (e : IoError) : Inflow :=
  { i with ending := some (i.ending.getD (.io e)) }

/-- What can be read so far. -/
def stream (i : Inflow) : FrameStream := ⟨i.frames, i.ending.getD (.io .starved)⟩

end Inflow

end Federation
