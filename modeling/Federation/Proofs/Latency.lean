/-
Federation/Proofs/Latency.lean

A coordinator that hears late.

A `Hearing` lets the coordinator hear a frame as soon as it is sent. In truth
there is a queue in either direction, and nobody knows how far behind the
coordinator is. A `LateHearing` is the same conversation with the frames that
are on their way to the coordinator. How many of them it hears before each act
of the federate is anyone's guess (`pace`); a federate that waits for a frame
waits until the coordinator has sent one, or has heard everything and sent
nothing.

It makes no difference. What the federate receives is the same, and once
everything is heard (`LateHearing.settled`) the coordinator is where it would be
had it heard everything at once (`stands_settled`). So every conversation that
is made of sends and receipts comes to the same over both links. This is said
once for any two links of which one stands for the other (`Stands`), and then
for what a federate says to the coordinator when it starts (`Stands.join`,
`Stands.synchronizeClock`).
-/
import Mathlib
import Federation.Coordinator.Hearing
import Federation.Link.Joining
import Federation.Proofs.Course

namespace Federation

open Procedure

/-! ### Links that stand for each other -/

/-- Seen through `view` a link is another one, whatever is received from it and
sent over it. -/
structure Stands {σ τ : Type} [Link σ] [Link τ] (view : σ → τ) : Prop where
  next : ∀ s, FrameSource.next (view s)
    = ((FrameSource.next s).1, view (FrameSource.next s).2)
  send : ∀ f s, Link.send f (view s) = ((Link.send f s).1, view (Link.send f s).2)

/-- A dialogue over the link that its own link is seen as. -/
def Dialogue.view {σ τ : Type} (view : σ → τ) (d : Dialogue σ) : Dialogue τ :=
  { link := view d.link, clock := d.clock, inbox := d.inbox, pauses := d.pauses }

/-- Two conversations go alike over a link and over the link that it is seen as. -/
abbrev AlikeThrough {σ τ α : Type} (view : σ → τ) (c : Conversation σ α)
    (c' : Conversation τ α) : Prop :=
  Alike (fun d d' => d.view view = d') c c' fun d d' => d.view view = d'

/-- What a conversation comes to over a link that is seen as another one, if it
is known for that one. -/
theorem AlikeThrough.exists_eq {σ τ α : Type} {view : σ → τ}
    {s : Conversation σ α} {t : Conversation τ α} (h : AlikeThrough view s t)
    {d : Dialogue σ} {d' : Dialogue τ} {result : Except Fault α}
    (ht : t (d.view view) = (result, d')) :
    ∃ e, s d = (result, e) ∧ e.view view = d' := by
  obtain ⟨hresult, hview⟩ := h d _ rfl
  rw [ht] at hresult hview
  exact ⟨_, Prod.ext hresult rfl, hview⟩

namespace Stands

section Parts

variable {σ τ α β : Type} {view : σ → τ}

theorem now : AlikeThrough view Conversation.now Conversation.now := by
  rintro d _ rfl
  exact ⟨rfl, rfl⟩

theorem adjustClock (correction : Interval) :
    AlikeThrough view (Conversation.adjustClock correction)
      (Conversation.adjustClock correction) := by
  rintro d _ rfl
  exact ⟨rfl, rfl⟩

theorem returns (a : α) : AlikeThrough view (pure a) (pure a) :=
  alike_pure fun _ _ => id

theorem fails (e : Fault) : AlikeThrough (α := α) view (throw e) (throw e) :=
  alike_throw fun _ _ => id

theorem bind {c : Conversation σ α} {c' : Conversation τ α}
    {f : α → Conversation σ β} {f' : α → Conversation τ β}
    (hc : AlikeThrough view c c') (hf : ∀ a, AlikeThrough view (f a) (f' a)) :
    AlikeThrough view (c >>= f) (c' >>= f') := Alike.bind hc hf fun _ _ => id

variable [Link σ] [Link τ] (h : Stands view)
include h

theorem receive (peer : String) :
    AlikeThrough view (Conversation.receive peer) (Conversation.receive peer) := by
  rintro d _ rfl
  have hnext := h.next d.link
  simp only [Conversation.receive, Dialogue.view, hnext]
  exact ⟨trivial, trivial⟩

theorem sends (peer : String) (f : Frame) :
    AlikeThrough view (Conversation.send peer f) (Conversation.send peer f) := by
  rintro d _ rfl
  have hsend := h.send f d.link
  simp only [Conversation.send, Dialogue.view, hsend]
  exact ⟨trivial, trivial⟩

end Parts

variable {σ τ : Type} {view : σ → τ} [Link σ] [Link τ] (h : Stands view)
include h

theorem join (federate : FederateId) (federationId : String)
    (neighbors : Neighbors) :
    AlikeThrough view (Joining.join federate federationId neighbors)
      (Joining.join federate federationId neighbors) := by
  refine bind (h.sends _ _) fun _ => bind (h.receive _) fun frame => ?_
  cases frame with
  | ack => exact h.sends _ _
  | _ => exact fails _

theorem exchange (federate : FederateId) :
    AlikeThrough view (ClockSync.exchange federate)
      (ClockSync.exchange federate) := by
  have hawait (a : ClockSync.Awaited) :
      AlikeThrough view (ClockSync.await a) (ClockSync.await a) := by
    refine bind (h.receive _) fun frame => ?_
    rcases a.time? frame with - | time
    · exact fails _
    · exact returns _
  refine bind (hawait .t1) fun _ => bind now fun _ => bind (h.sends _ _) fun _ => ?_
  exact bind now fun _ => bind (hawait .t4) fun _ => returns _

theorem collect (federate : FederateId) (n : Nat) :
    AlikeThrough view (ClockSync.collect federate n)
      (ClockSync.collect federate n) := by
  induction n with
  | zero => exact returns _
  | succ n ih =>
    exact bind (h.exchange federate) fun _ => bind ih fun _ => returns _

theorem synchronizeClock (federate : FederateId) (exchanges : UInt16) :
    AlikeThrough view (Joining.synchronizeClock federate exchanges)
      (Joining.synchronizeClock federate exchanges) := by
  refine bind (h.sends _ _) fun _ => ?_
  split
  · exact returns _
  · refine bind ?_ fun _ => returns _
    exact bind (h.collect federate _) fun _ =>
      bind (adjustClock _) fun _ => returns _

end Stands

/-! ### Hearing late -/

namespace Hearing

variable {h : Hearing} {f : Frame} {bytes : ByteArray}

/-- The coordinator hears a block of bytes. What is no frame ends the
conversation. -/
def take (h : Hearing) (bytes : ByteArray) : Hearing :=
  match Frame.decode bytes with
  | .ok f => h.hear f
  | .error _ =>
    { h with coordinator := h.coordinator.lose h.phase, phase := .ended }

theorem send_of_encode (he : f.encode = .ok bytes) :
    h.send f = (.ok (), h.take bytes) := by
  unfold send take
  rw [he]
  show (match Frame.decode bytes with | .ok heard => _ | .error _ => _) = _
  cases Frame.decode bytes <;> rfl

/-- The same conversation with some frames more for the federate, in front of
the others. -/
def behind (h : Hearing) (frames : List Frame) : Hearing :=
  { h with pending := frames ++ h.pending }

theorem post_behind (h : Hearing) (frames : List Frame) (letter : Letter) :
    (h.behind frames).post letter = (h.post letter).behind frames := by
  cases letter with
  | back f => simp only [post, behind, List.append_assoc]
  | onward receiver f =>
    have hfederate : (h.behind frames).federate? = h.federate? := rfl
    simp only [post, hfederate]
    split
    · simp only [behind, List.append_assoc]
    · rfl

/-- What the coordinator does depends on nothing that the federate has yet to
receive. -/
theorem take_behind (h : Hearing) (frames : List Frame) (bytes : ByteArray) :
    (h.behind frames).take bytes = (h.take bytes).behind frames := by
  have hletters (letters : List Letter) (h : Hearing) :
      letters.foldl post (h.behind frames)
        = (letters.foldl post h).behind frames := by
    induction letters generalizing h with
    | nil => rfl
    | cons letter letters ih =>
      rw [List.foldl_cons, post_behind, ih, List.foldl_cons]
  unfold take
  cases Frame.decode bytes with
  | error e => rfl
  | ok f =>
    let answer := h.coordinator.hear h.phase f
    exact hletters answer.2.2
      { h with coordinator := answer.1, phase := answer.2.1 }

theorem foldl_take_behind (blocks : List ByteArray) (h : Hearing)
    (frames : List Frame) :
    blocks.foldl take (h.behind frames) = (blocks.foldl take h).behind frames := by
  induction blocks generalizing h with
  | nil => rfl
  | cons bytes blocks ih => rw [List.foldl_cons, take_behind, ih, List.foldl_cons]

end Hearing

/-- A conversation of a coordinator with one federate, and what is on its way to
the coordinator. -/
structure LateHearing where
  hearing : Hearing
  /-- What the federate has sent and the coordinator has not heard yet. -/
  unheard : List ByteArray := []
  /-- How many frames the coordinator hears before each act of the federate. -/
  pace : Nat → Nat
  /-- The number of acts so far. -/
  acts : Nat := 0

namespace LateHearing

variable (l : LateHearing)

/-- The conversation once the coordinator has heard everything. -/
def settled : Hearing := l.unheard.foldl Hearing.take l.hearing

/-- The coordinator hears as much as it does before the next act. -/
def advance : LateHearing :=
  let n := l.pace l.acts
  { l with
    hearing := (l.unheard.take n).foldl Hearing.take l.hearing
    unheard := l.unheard.drop n
    acts := l.acts + 1 }

/-- The coordinator hears one frame after another until it has something for the
federate. -/
def untilPending : Hearing → List ByteArray → Hearing × List ByteArray
  | h, [] => (h, [])
  | h, bytes :: blocks =>
    if h.pending = [] then untilPending (h.take bytes) blocks
      else (h, bytes :: blocks)

/-- The federate waits for a frame and receives it. -/
def next : Except FrameError Frame × LateHearing :=
  let l := l.advance
  let (hearing, unheard) := untilPending l.hearing l.unheard
  let (frame, hearing) := hearing.next
  (frame, { l with hearing, unheard })

/-- The federate sends a frame, which goes behind those that are on their way. -/
def send (f : Frame) : Except FrameError Unit × LateHearing :=
  let l := l.advance
  match f.encode with
  | .error e => (.error e, l)
  | .ok bytes => (.ok (), { l with unheard := l.unheard ++ [bytes] })

theorem settled_advance : l.advance.settled = l.settled := by
  show (l.unheard.drop _).foldl Hearing.take
      ((l.unheard.take _).foldl Hearing.take l.hearing) = _
  rw [← List.foldl_append, List.take_append_drop]
  rfl

theorem settled_untilPending (h : Hearing) (blocks : List ByteArray) :
    (untilPending h blocks).2.foldl Hearing.take (untilPending h blocks).1
      = blocks.foldl Hearing.take h := by
  induction blocks generalizing h with
  | nil => rfl
  | cons bytes blocks ih =>
    unfold untilPending
    split
    · exact ih (h.take bytes)
    · rfl

/-- It waits for as long as there is anything to wait for. -/
theorem untilPending_cases (h : Hearing) (blocks : List ByteArray) :
    (untilPending h blocks).2 = [] ∨ (untilPending h blocks).1.pending ≠ [] := by
  induction blocks generalizing h with
  | nil => exact .inl rfl
  | cons bytes blocks ih =>
    unfold untilPending
    split
    · exact ih (h.take bytes)
    · exact .inr ‹_›

/-- A frame that waits for the federate is the first also once everything is
heard. -/
theorem next_foldl_take {h : Hearing} {blocks : List ByteArray}
    (hwait : blocks = [] ∨ h.pending ≠ []) :
    (blocks.foldl Hearing.take h).next
      = (h.next.1, blocks.foldl Hearing.take h.next.2) := by
  rcases hpending : h.pending with - | ⟨f, fs⟩
  · obtain rfl := hwait.resolve_right (not_not_intro hpending)
    rfl
  · have hbehind : h = { h with pending := fs }.behind [f] := by
      rw [Hearing.behind, List.singleton_append, ← hpending]
    have hnext (h : Hearing) : (h.behind [f]).next = (.ok f, h) := rfl
    rw [hbehind, Hearing.foldl_take_behind, hnext, hnext]

theorem next_settled : l.settled.next = (l.next.1, l.next.2.settled) := by
  rw [← settled_advance, settled, ← settled_untilPending,
    next_foldl_take (untilPending_cases _ _)]
  rfl

theorem send_settled (f : Frame) :
    l.settled.send f = ((l.send f).1, (l.send f).2.settled) := by
  rw [← settled_advance, send]
  cases hencode : f.encode with
  | error e =>
    unfold Hearing.send
    rw [hencode]
  | ok bytes =>
    rw [Hearing.send_of_encode hencode]
    show _
        = (_, (l.advance.unheard ++ [bytes]).foldl Hearing.take l.advance.hearing)
    rw [List.foldl_append]
    rfl

instance : Link LateHearing where
  next := next
  size l := l.settled.pending.length
  size_lt_of_next {l l' f} h := by
    have hsettled := l.next_settled
    rw [h] at hsettled
    exact Hearing.length_lt_of_next hsettled
  send := fun f l => l.send f

/-- **A coordinator that hears late comes to the same as one that hears at
once.** -/
theorem stands_settled : Stands settled :=
  ⟨next_settled, fun f l => send_settled l f⟩

end LateHearing

end Federation
