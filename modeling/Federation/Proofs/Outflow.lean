/-
Federation/Proofs/Outflow.lean

What goes out over an endpoint, and what the other side reads of it.

Frames are sent over an endpoint, sent unless it is busy, and at some time it is
closed, in any order (`Endpoint.Operation`), and each of these comes to
something (`Endpoint.Event`). What a single send can come to is said once, in
`Endpoint.Sends`:

* a closed endpoint refuses the frame;
* an open one refuses a frame that has no encoding;
* else it writes the encoding behind what was written before;
* or the write fails, and that is the end of the endpoint.

As long as no write fails, one operation adds the encoding of the frame that it
reports as sent, and nothing if it reports none (`step_perform`); so a row of
them adds the encodings of all that were reported, in order, by induction over
the row (`carried_inTurn`). A reader on the other side stops where an encoding
ends, so it reads these frames, and a closed endpoint ends its stream
(`sent_is_read`).
-/
import Mathlib
import Federation.Link.Endpoint
import Federation.Output
import Federation.Proofs.RoundTrip

namespace Federation

/-! ### The bytes of some frames -/

namespace Frame

variable {frames frames' : List Frame} {bytes bytes' : ByteArray}

/-- The bytes are the encodings of the frames, one after another. -/
def Serialized (frames : List Frame) (bytes : ByteArray) : Prop :=
  ∃ blocks, List.Forall₂ (fun f b => f.encode = .ok b) frames blocks ∧
    bytes = Bytes.concat blocks

theorem serialized_nil : Serialized [] .empty := ⟨[], .nil, rfl⟩

theorem serialized_singleton {f : Frame} (h : f.encode = .ok bytes) :
    Serialized [f] bytes := by
  refine ⟨[bytes], .cons h .nil, ?_⟩
  rw [Bytes.concat_cons, Bytes.concat_nil, ByteArray.append_empty]

theorem Serialized.append (h : Serialized frames bytes)
    (h' : Serialized frames' bytes') :
    Serialized (frames ++ frames') (bytes ++ bytes') := by
  obtain ⟨blocks, hblocks, rfl⟩ := h
  obtain ⟨blocks', hblocks', rfl⟩ := h'
  exact ⟨blocks ++ blocks', List.rel_append hblocks hblocks',
    (Bytes.concat_append _ _).symm⟩

/-- Wherever the bytes stand at the end, the frames are read of them, if their
form is no other frame's. -/
theorem Serialized.frames_between (h : Serialized frames bytes)
    (hrep : ∀ f ∈ frames, f.Representable) (before : ByteArray)
    (ending : IoError) :
    (Cursor.between before bytes ending).frames = ⟨frames, .io ending⟩ := by
  obtain ⟨blocks, hblocks, rfl⟩ := h
  exact Cursor.frames_between hblocks hrep before ending

end Frame

namespace Wire

variable {w w' w'' : Wire} {frames frames' : List Frame} {f : Frame}
  {bytes : ByteArray}

/-- From one time to a later one, the encodings of the frames were written, one
after another. -/
def Writes (w : Wire) (frames : List Frame) (w' : Wire) : Prop :=
  ∃ bytes, Frame.Serialized frames bytes ∧ w'.written = w.written ++ bytes

theorem Writes.refl (w : Wire) : w.Writes [] w :=
  ⟨.empty, Frame.serialized_nil, ByteArray.append_empty.symm⟩

theorem Writes.trans (h : w.Writes frames w') (h' : w'.Writes frames' w'') :
    w.Writes (frames ++ frames') w'' := by
  obtain ⟨bytes, hbytes, hwritten⟩ := h
  obtain ⟨bytes', hbytes', hwritten'⟩ := h'
  exact ⟨bytes ++ bytes', hbytes.append hbytes',
    by rw [hwritten', hwritten, ByteArray.append_assoc]⟩

/-- A write that succeeds writes all that there is to write. -/
theorem writes_write (hencode : f.encode = .ok bytes)
    (h : (w.write bytes).1 = .ok ()) :
    w.Writes [f] (w.write bytes).2 := by
  refine ⟨bytes, Frame.serialized_singleton hencode, ?_⟩
  rw [write] at h ⊢
  split
  · rfl
  · next room hroom =>
    simp only [hroom] at h
    split
    · rfl
    · next hfull =>
      rw [if_neg hfull] at h
      cases h

theorem write_of_unbounded (h : w.room = none) (bytes : ByteArray) :
    w.write bytes = (.ok (), { written := w.written ++ bytes }) := by
  rw [write, h]

end Wire

namespace Endpoint

/-! ### One send -/

/-- What a send can come to. -/
inductive Sends (e : Endpoint) (f : Frame) : Except SendError Unit → Endpoint → Prop
  | closed (h : e.isOpen = false) : Sends e f (.error (.closed e.peer)) e
  | unencodable {source : FrameError} (hopen : e.isOpen = true)
      (h : f.encode = .error source) :
      Sends e f (.error (.encode e.peer source)) e
  | sent {bytes : ByteArray} {wire : Wire} (hopen : e.isOpen = true)
      (h : f.encode = .ok bytes) (hwrites : e.wire.Writes [f] wire) :
      Sends e f (.ok ()) { e with wire }
  | failed {source : IoError} {wire : Wire} (hopen : e.isOpen = true) :
      Sends e f (.error (.io e.peer source)) { e with wire, isOpen := false }

variable {e e' : Endpoint} {f : Frame}

theorem encode_of_open (hopen : e.isOpen = true) :
    e.encode f = f.encode.mapError (.encode e.peer) := by
  rw [encode, if_pos hopen]

theorem encode_of_closed (h : e.isOpen = false) :
    e.encode f = .error (.closed e.peer) := by
  rw [encode, if_neg (by rw [h]; decide)]

theorem sends_write {bytes : ByteArray} (hopen : e.isOpen = true)
    (h : f.encode = .ok bytes) :
    Sends e f (e.write bytes).1 (e.write bytes).2 := by
  have hwrites := Wire.writes_write (w := e.wire) h
  rw [write]
  rcases hresult : e.wire.write bytes with ⟨error | _, wire⟩ <;>
    rw [hresult] at hwrites
  · exact .failed hopen
  · exact .sent hopen h (hwrites rfl)

theorem sends_send (e : Endpoint) (f : Frame) :
    Sends e f (e.send f).1 (e.send f).2 := by
  rw [send]
  cases hopen : e.isOpen with
  | false =>
    rw [encode_of_closed hopen]
    exact .closed hopen
  | true =>
    rw [encode_of_open hopen]
    cases hencode : f.encode with
    | error source => exact .unencodable hopen hencode
    | ok bytes => exact sends_write hopen hencode

/-- A closed endpoint refuses every frame, and stays as it is. -/
theorem send_of_closed (h : e.isOpen = false) (f : Frame) :
    e.send f = (.error (.closed e.peer), e) := by
  rw [send, encode_of_closed h]

theorem close_of_closed (h : e.isOpen = false) : e.close = e :=
  Endpoint.ext rfl rfl h.symm

theorem trySend_of_closed (h : e.isOpen = false) (f : Frame) (busy : Bool) :
    e.trySend f busy = (.error (.closed e.peer), e) := by
  rw [trySend, encode_of_closed h]

/-- A frame without an encoding is refused, and the endpoint stays as it is. -/
theorem send_of_unencodable {source : FrameError} (hopen : e.isOpen = true)
    (h : f.encode = .error source) :
    e.send f = (.error (.encode e.peer source), e) := by
  rw [send, encode_of_open hopen, h]
  rfl

theorem trySend_of_unencodable {source : FrameError} (hopen : e.isOpen = true)
    (h : f.encode = .error source) (busy : Bool) :
    e.trySend f busy = (.error (.encode e.peer source), e) := by
  rw [trySend, encode_of_open hopen, h]
  rfl

/-- An endpoint that is not busy sends. -/
theorem trySend_of_idle (e : Endpoint) (f : Frame) :
    e.trySend f false = ((e.send f).1.map fun _ => true, (e.send f).2) := by
  rw [trySend, send]
  cases e.encode f <;> rfl

/-- A busy endpoint does not change. -/
theorem trySend_of_busy {bytes : ByteArray} (hopen : e.isOpen = true)
    (h : f.encode = .ok bytes) :
    e.trySend f true = (.ok false, e) := by
  rw [trySend, encode_of_open hopen, h]
  rfl

/-! ### One operation -/

/-- What is done with an endpoint. -/
inductive Operation where
  | send (f : Frame)
  /-- Another write may be in progress. -/
  | trySend (f : Frame) (busy : Bool)
  | close
deriving DecidableEq

/-- What is done with an endpoint, and what it comes to. -/
inductive Event where
  | send (f : Frame) (result : Except SendError Unit)
  | trySend (f : Frame) (busy : Bool) (result : Except SendError Bool)
  | close

namespace Operation

/-- The frame that the operation sends over an open endpoint: one that has an
encoding, unless the endpoint is busy. -/
def due? : Operation → Option Frame
  | send f => if f.encode.isOk then some f else none
  | trySend f false => if f.encode.isOk then some f else none
  | trySend _ true => none
  | close => none

/-- What the operation comes to at a closed endpoint. -/
def refused (peer : Destination) : Operation → Event
  | send f => .send f (.error (.closed peer))
  | trySend f busy => .trySend f busy (.error (.closed peer))
  | close => .close

end Operation

namespace Event

/-- The frame that is reported as sent. -/
def sent? : Event → Option Frame
  | send f (.ok ()) => some f
  | trySend f _ (.ok true) => some f
  | _ => none

/-- Whether a write is reported as failed. -/
def WriteFailed : Event → Prop
  | send _ (.error (.io _ _)) => True
  | trySend _ _ (.error (.io _ _)) => True
  | _ => False

end Event

/-- Does something with an endpoint. -/
def perform : Operation → Endpoint → Event × Endpoint
  | .send f, e => (.send f (e.send f).1, (e.send f).2)
  | .trySend f busy, e =>
    (.trySend f busy (e.trySend f busy).1, (e.trySend f busy).2)
  | .close, e => (.close, e.close)

/-- What an operation does if no write fails. -/
structure Step (e : Endpoint) (op : Operation) (event : Event) (e' : Endpoint) :
    Prop where
  peer : e'.peer = e.peer
  isOpen : e'.isOpen = true ↔ e.isOpen = true ∧ op ≠ .close
  sent : event.sent? = if e.isOpen then op.due? else none
  written : e.wire.Writes event.sent?.toList e'.wire

/-- Nothing is reported as sent, and nothing has changed. -/
theorem step_of_same {op : Operation} {event : Event} (hop : op ≠ .close)
    (hsent : event.sent? = none) (hdue : e.isOpen = true → op.due? = none) :
    Step e op event e where
  peer := rfl
  isOpen := by rw [and_iff_left hop]
  sent := by
    rw [hsent]
    split
    · next hopen => rw [hdue hopen]
    · rfl
  written := by
    rw [hsent]
    exact .refl _

theorem step_send (h : ¬ (Event.send f (e.send f).1).WriteFailed) :
    Step e (.send f) (.send f (e.send f).1) (e.send f).2 := by
  have hsends := sends_send e f
  rcases hresult : e.send f with ⟨result, e'⟩
  rw [hresult] at h hsends
  dsimp only at h hsends ⊢
  cases hsends with
  | closed hclosed =>
    exact step_of_same nofun rfl fun hopen => by rw [hclosed] at hopen; cases hopen
  | unencodable hopen hencode =>
    refine step_of_same nofun rfl fun _ => ?_
    rw [Operation.due?, hencode]
    rfl
  | @sent bytes wire hopen hencode hwrites =>
    refine ⟨rfl, ?_, ?_, hwrites⟩
    · exact (and_iff_left nofun).symm
    · rw [if_pos hopen, Operation.due?, hencode]
      rfl
  | failed hopen => exact absurd trivial h

/-- An endpoint that is not busy does the same as for a send, but for the form
of the report. -/
theorem step_trySend_of_idle
    (h : ¬ (Event.trySend f false (e.trySend f false).1).WriteFailed) :
    Step e (.trySend f false) (.trySend f false (e.trySend f false).1)
      (e.trySend f false).2 := by
  rw [trySend_of_idle] at h ⊢
  have hsent : (Event.trySend f false ((e.send f).1.map fun _ => true)).sent?
      = (Event.send f (e.send f).1).sent? := by
    cases (e.send f).1 <;> rfl
  have hfailed : (Event.send f (e.send f).1).WriteFailed →
      (Event.trySend f false ((e.send f).1.map fun _ => true)).WriteFailed := by
    rcases (e.send f).1 with error | u
    · cases error <;> exact id
    · exact id
  obtain ⟨hpeer, hopen, hdue, hwritten⟩ := step_send (mt hfailed h)
  refine ⟨hpeer, ?_, ?_, ?_⟩
  · rw [hopen]
    exact and_congr_right fun _ => iff_of_true nofun nofun
  · rw [hsent, hdue]
    rfl
  · rw [hsent]
    exact hwritten

theorem step_trySend_of_busy (e : Endpoint) (f : Frame) :
    Step e (.trySend f true) (.trySend f true (e.trySend f true).1)
      (e.trySend f true).2 := by
  cases hopen : e.isOpen with
  | false =>
    rw [trySend_of_closed hopen]
    exact step_of_same nofun rfl fun _ => rfl
  | true =>
    cases hencode : f.encode with
    | error source =>
      rw [trySend_of_unencodable hopen hencode]
      exact step_of_same nofun rfl fun _ => rfl
    | ok bytes =>
      rw [trySend_of_busy hopen hencode]
      exact step_of_same nofun rfl fun _ => rfl

theorem step_close (e : Endpoint) : Step e .close .close e.close where
  peer := rfl
  isOpen := iff_of_false nofun fun h => h.2 rfl
  sent := (ite_self _).symm
  written := .refl _

theorem step_perform (op : Operation) (e : Endpoint)
    (h : ¬ (perform op e).1.WriteFailed) :
    Step e op (perform op e).1 (perform op e).2 := by
  cases op with
  | send f => exact step_send h
  | trySend f busy =>
    cases busy with
    | false => exact step_trySend_of_idle h
    | true => exact step_trySend_of_busy e f
  | close => exact step_close e

/-! ### Operations one after another -/

/-- A closed endpoint refuses all that is done with it, and stays as it is. -/
theorem inTurn_of_closed (h : e.isOpen = false) (ops : List Operation) :
    inTurn perform ops e = (ops.map (Operation.refused e.peer), e) := by
  induction ops with
  | nil => rfl
  | cons op ops ih =>
    have hperform : perform op e = (op.refused e.peer, e) := by
      cases op with
      | send f =>
        rw [perform, send_of_closed h]
        rfl
      | trySend f busy =>
        rw [perform, trySend_of_closed h]
        rfl
      | close =>
        rw [perform, close_of_closed h]
        rfl
    rw [inTurn_cons, hperform, ih]
    rfl

/-- What a row of operations does to an open endpoint if no write fails. -/
structure Carried (e : Endpoint) (ops : List Operation) (events : List Event)
    (e' : Endpoint) : Prop where
  peer : e'.peer = e.peer
  isOpen : e'.isOpen = true ↔ .close ∉ ops
  sent : events.filterMap Event.sent?
    = (ops.takeWhile (· ≠ .close)).filterMap Operation.due?
  written : e.wire.Writes (events.filterMap Event.sent?) e'.wire

theorem carried_inTurn (ops : List Operation) (hopen : e.isOpen = true)
    (hwrites : ∀ event ∈ (inTurn perform ops e).1, ¬ event.WriteFailed) :
    Carried e ops (inTurn perform ops e).1 (inTurn perform ops e).2 := by
  induction ops generalizing e with
  | nil => exact ⟨rfl, iff_of_true hopen nofun, rfl, .refl _⟩
  | cons op ops ih =>
    rw [inTurn_cons] at hwrites ⊢
    rw [List.forall_mem_cons] at hwrites
    obtain ⟨hfirst, hrest⟩ := hwrites
    obtain ⟨hpeer, hstep, hsent, hwritten⟩ := step_perform op e hfirst
    rw [if_pos hopen] at hsent
    by_cases hclose : op = .close
    · -- from here on nothing is sent
      subst hclose
      have hsilent :
          (ops.map (Operation.refused e.peer)).filterMap Event.sent? = [] := by
        rw [List.filterMap_map, List.filterMap_eq_nil_iff]
        intro op _
        cases op <;> rfl
      have hclosed : inTurn perform ops (perform .close e).2 = _ :=
        inTurn_of_closed (e := e.close) rfl ops
      rw [hclosed]
      refine ⟨rfl, ?_, hsilent, ?_⟩
      · exact iff_of_false nofun fun h => h List.mem_cons_self
      · show e.wire.Writes
            ((ops.map (Operation.refused e.peer)).filterMap Event.sent?) e.wire
        rw [hsilent]
        exact .refl _
    · -- the endpoint is still open, and the rest goes on from there
      obtain ⟨hpeer', hopen', hsent', hwritten'⟩ :=
        ih (hstep.mpr ⟨hopen, hclose⟩) hrest
      have hcons (events : List Event) :
          ((perform op e).1 :: events).filterMap Event.sent?
          = (perform op e).1.sent?.toList ++ events.filterMap Event.sent? := by
        rw [List.filterMap_cons]
        cases (perform op e).1.sent? <;> rfl
      refine ⟨hpeer'.trans hpeer, ?_, ?_, ?_⟩
      · rw [hopen', List.mem_cons, not_or, and_iff_right (Ne.symm hclose)]
      · rw [hcons, hsent', hsent,
          List.takeWhile_cons_of_pos (by simpa using hclose), List.filterMap_cons]
        cases op.due? <;> rfl
      · rw [hcons]
        exact hwritten.trans hwritten'

/-! ### Wires without bound -/

theorem write_of_unbounded (h : e.wire.room = none) (bytes : ByteArray) :
    e.write bytes
      = (.ok (), { e with wire := { written := e.wire.written ++ bytes } }) := by
  rw [write, Wire.write_of_unbounded h]

/-- Over a wire without bound no write fails, and the wire remains without bound. -/
theorem perform_of_unbounded (h : e.wire.room = none) (op : Operation) :
    ¬ (perform op e).1.WriteFailed ∧ (perform op e).2.wire.room = none := by
  cases op with
  | send f =>
    rw [perform, send, encode]
    cases e.isOpen with
    | false => exact ⟨id, h⟩
    | true =>
      cases f.encode with
      | error source => exact ⟨id, h⟩
      | ok bytes =>
        -- the frame has an encoding, and this is written
        show ¬ (Event.send f (e.write bytes).1).WriteFailed ∧
            (e.write bytes).2.wire.room = none
        rw [write_of_unbounded h]
        exact ⟨id, rfl⟩
  | trySend f busy =>
    rw [perform, trySend, encode]
    cases e.isOpen with
    | false => exact ⟨id, h⟩
    | true =>
      cases f.encode with
      | error source => exact ⟨id, h⟩
      | ok bytes =>
        cases busy with
        | true => exact ⟨id, h⟩
        | false =>
          show ¬ (Event.trySend f false
              ((e.write bytes).1.map fun _ => true)).WriteFailed ∧
            (e.write bytes).2.wire.room = none
          rw [write_of_unbounded h]
          exact ⟨id, rfl⟩
  | close => exact ⟨id, h⟩

theorem not_writeFailed_of_unbounded (ops : List Operation)
    (h : e.wire.room = none) :
    ∀ event ∈ (inTurn perform ops e).1, ¬ event.WriteFailed := by
  induction ops generalizing e with
  | nil => exact fun _ hevent => absurd hevent List.not_mem_nil
  | cons op ops ih =>
    obtain ⟨hfirst, hroom⟩ := perform_of_unbounded h op
    rw [inTurn_cons]
    exact List.forall_mem_cons.mpr ⟨hfirst, ih hroom⟩

/-! ### The other side -/

/-- What the other side can read from a place on. As long as the endpoint is
open, more may come; a closed one has come to its end. -/
def outflow (e : Endpoint) (position : Nat) : Cursor where
  bytes := e.wire.written
  position
  ending := if e.isOpen then .starved else .endOfInput

/-- **What is sent is read.** Let frames be sent over an open endpoint, some of
them unless it is busy, let it be closed at any time, and let no write fail. What
was written is the encodings of the frames that were reported as sent: those that
have one and came before the endpoint was closed, but for those that met it busy.
A closed endpoint refuses everything, and does not change. The other side reads
these frames, in order, and then finds that this side has gone away exactly if the
endpoint is closed. -/
theorem sent_is_read (ops : List Operation) (hopen : e.isOpen = true)
    (hwrites : ∀ event ∈ (inTurn perform ops e).1, ¬ event.WriteFailed) :
    let sent := (inTurn perform ops e).1.filterMap Event.sent?
    let e' := (inTurn perform ops e).2
    e.wire.Writes sent e'.wire ∧
    sent = (ops.takeWhile (· ≠ .close)).filterMap Operation.due? ∧
    (e'.isOpen = true ↔ .close ∉ ops) ∧
    (e'.isOpen = true → ∀ f source, f.encode = .error source →
      e'.send f = (.error (.encode e.peer source), e') ∧
      ∀ busy, e'.trySend f busy = (.error (.encode e.peer source), e')) ∧
    (e'.isOpen = false → ∀ later,
      inTurn perform later e' = (later.map (Operation.refused e.peer), e')) ∧
    ((∀ f ∈ sent, f.Representable) →
      (e'.outflow e.wire.written.size).frames.frames = sent ∧
      ((e'.outflow e.wire.written.size).frames.ending.isDisconnect = true ↔
        e'.isOpen = false)) := by
  intro sent e'
  obtain ⟨hpeer, hstill, hdue, hwritten⟩ := carried_inTurn ops hopen hwrites
  refine ⟨hwritten, hdue, hstill, ?_, ?_, ?_⟩
  · intro hopen' f source hencode
    rw [← hpeer]
    exact
      ⟨send_of_unencodable hopen' hencode, trySend_of_unencodable hopen' hencode⟩
  · intro hclosed later
    rw [← hpeer]
    exact inTurn_of_closed hclosed later
  · intro hrep
    obtain ⟨bytes, hbytes, hwritten⟩ := hwritten
    -- the encodings stand behind what was written before, and nothing stands
    -- behind them
    have hplace : e'.outflow e.wire.written.size
        = Cursor.between e.wire.written bytes
          (e'.outflow e.wire.written.size).ending := by
      rw [outflow, hwritten]
      rfl
    have hread :=
      hbytes.frames_between hrep e.wire.written
        (e'.outflow e.wire.written.size).ending
    rw [← hplace] at hread
    rw [hread]
    refine ⟨rfl, ?_⟩
    show (if e'.isOpen then IoError.starved else .endOfInput).kind.isDisconnect
        = true ↔ _
    cases e'.isOpen <;> decide

/-- More neighbours than a frame may carry. -/
def crowd : Neighbors := ⟨[], List.replicate 65537 ⟨0⟩⟩

theorem encode_crowd :
    (Frame.neighborStructure crowd).encode = .error (.tooManyNeighbors 65537) := by
  have hcount : Frame.checkCount crowd.downstream.length
      = .error (.tooManyNeighbors 65537) := by
    rw [crowd, List.length_replicate]
    rfl
  rw [Frame.encode, Frame.checkLimits, hcount]
  rfl

theorem sent_is_read_between_refusals :
    let ops : List Operation :=
      [.send (.joinPeer ⟨3⟩ "fed"), .send (.neighborStructure crowd),
      .trySend .ack true, .trySend .resign false, .close, .send .ack]
    let stream :=
      ((inTurn perform ops { peer := .federate ⟨1⟩ }).2.outflow 0).frames
    stream.frames = [.joinPeer ⟨3⟩ "fed", .resign] ∧
      stream.ending.isDisconnect = true := by
  intro ops
  obtain ⟨-, hdue, hstill, -, -, hread⟩ :=
    sent_is_read (e := { peer := .federate ⟨1⟩ }) ops rfl
      (not_writeFailed_of_unbounded ops rfl)
  have hjoin :
      (Operation.send (.joinPeer ⟨3⟩ "fed")).due? = some (.joinPeer ⟨3⟩ "fed") :=
    rfl
  have hcrowd : (Operation.send (.neighborStructure crowd)).due? = none := by
    rw [Operation.due?, encode_crowd]
    rfl
  have hsent : (ops.takeWhile (· ≠ .close)).filterMap Operation.due?
      = [.joinPeer ⟨3⟩ "fed", .resign] := by
    have hbefore : ops.takeWhile (· ≠ .close)
        = [.send (.joinPeer ⟨3⟩ "fed"), .send (.neighborStructure crowd),
          .trySend .ack true, .trySend .resign false] := by
      simp [ops]
    rw [hbefore, List.filterMap_cons_some hjoin, List.filterMap_cons_none hcrowd]
    rfl
  have hclosed : ¬ Operation.close ∉ ops := by simp [ops]
  rw [hdue, hsent] at hread
  obtain ⟨hframes, hending⟩ := hread (by simp [Frame.Representable]; decide)
  exact
    ⟨hframes, hending.mpr (Bool.eq_false_iff.mpr fun h => hclosed (hstill.mp h))⟩

end Endpoint

end Federation
