/-
Federation/Board/Wait.lean

Waiting for a status.

Who waits for the status of an input at a tag looks at the board again and
again: at the start, after all news, and when the deadline has come. News are a
message, a notice, and the end of the federate. `Board.check` is one such look:
it ends the wait if the federate is shutting down, if the status is known, or if
the clock shows the deadline or more; in the last case the input counts as
absent from then on. Else it says how long to wait for at most.

An absence that a deadline has decided is no news, and neither is it that
messages are forgotten. The others that wait see of it when they look next: who
waits for a tag that another wait has taken for absent goes on waiting, and
finds the message present if it comes after all.

`WaitingRoom` is a board with the waits that are going on at it. Any number of
waits may look at the board in any order between its changes; here a wait looks
when it begins, and all of them look after news, in the order in which they
came.
-/
import Federation.Board.Basic

namespace Federation

/-- A wait for the status of an input at a tag, until a deadline. -/
structure Wait where
  port : PortId
  tag : Tag
  deadline : Instant
deriving DecidableEq

/-- What a look at the board gives to the one that waits. -/
inductive WaitStep where
  /-- The wait is over. -/
  | resolved (status : PortStatus)
  /-- The wait goes on, for no longer than this. -/
  | pending (remaining : Interval)
deriving DecidableEq

namespace Board

/-- One look at the board by a wait, when the clock shows `now`. -/
def check (b : Board) (w : Wait) (now : Instant) : Board × WaitStep :=
  if b.shuttingDown then (b, .resolved .absent)
  else match b.status w.port w.tag with
    | .present => (b, .resolved .present)
    | .absent => (b, .resolved .absent)
    | .unknown =>
      if w.deadline ≤ now then (b.markAbsent w.port w.tag, .resolved .absent)
      else (b, .pending (w.deadline.since now))

/-- A wait during which nothing else happens: if the first look does not end it,
its deadline does. -/
def waitAlone (b : Board) (w : Wait) (now : Instant) : Board × PortStatus :=
  match b.check w now with
  | (b, .resolved status) => (b, status)
  | (b, .pending _) => (b.markAbsent w.port w.tag, .absent)

end Board

/-- A wait at a board, and how it ended if it did. -/
structure WaitEntry where
  wait : Wait
  outcome : Option PortStatus := none
deriving DecidableEq

/-- A board and the waits at it, in the order in which they came. -/
structure WaitingRoom where
  board : Board := {}
  entries : List WaitEntry := []

namespace WaitingRoom

/-- One look at the board by one of those that wait. -/
def look (now : Instant) (b : Board) (e : WaitEntry) : Board × WaitEntry :=
  match e.outcome with
  | some _ => (b, e)
  | none => match b.check e.wait now with
    | (b, .resolved status) => (b, { e with outcome := some status })
    | (b, .pending _) => (b, e)

/-- Looks at the board by all that wait, one after another. -/
def lookAll (now : Instant) : Board → List WaitEntry → Board × List WaitEntry
  | b, [] => (b, [])
  | b, e :: es =>
    let (b, e) := look now b e
    let (b, es) := lookAll now b es
    (b, e :: es)

/-- Everyone looks at the board. -/
def wake (r : WaitingRoom) (now : Instant) : WaitingRoom :=
  let (board, entries) := lookAll now r.board r.entries
  { board, entries }

/-- Changes the board by news, which wake those that wait. -/
def change (r : WaitingRoom) (now : Instant) (f : Board → Board) : WaitingRoom :=
  wake { r with board := f r.board } now

/-- Changes the board by what is no news, so that no one wakes. -/
def changeQuietly (r : WaitingRoom) (f : Board → Board) : WaitingRoom :=
  { r with board := f r.board }

/-- One more wait, which looks at the board at once. -/
def enter (r : WaitingRoom) (now : Instant) (w : Wait) : WaitingRoom :=
  let (board, entry) := look now r.board { wait := w }
  { board, entries := r.entries ++ [entry] }

/-- How the wait with the given number ended; none as long as it goes on. -/
def outcome? (r : WaitingRoom) (n : Nat) : Option PortStatus :=
  r.entries[n]? >>= (·.outcome)

end WaitingRoom

end Federation
