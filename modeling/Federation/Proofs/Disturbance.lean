/-
Federation/Proofs/Disturbance.lean

Data among the answers of the coordinator.

From the moment that a federate has joined, the coordinator relays data to it,
and the data may come among the answers that the federate waits for. Here each
conversation is held twice: over a stream with data in it, and over the same
stream without (`FrameStream.quiet`).

* While the federate asks for addresses, both go alike (`alike_queryAddress`),
  by induction over the stream and over the questions. The data is taken in, in
  order, and what has not been taken in is still to come (`Accounted`).
* While it synchronises its clock, both go alike as long as no data comes. The
  first frame of data ends the conversation with a fault, and is lost
  (`reads_collect`, by induction over the exchanges).
-/
import Mathlib
import Federation.Proofs.Announcement
import Federation.Proofs.Course
import Federation.Proofs.Refusal
import Federation.Session.Start

namespace Federation

open Procedure

/-! ### Streams without data -/

/-- The frames that are no data. -/
def Frame.controls (frames : List Frame) : List Frame :=
  frames.filter fun f => !f.isRelayed

/-- The frames that are data. -/
def Frame.relayed (frames : List Frame) : List Frame :=
  frames.filter Frame.isRelayed

/-- The same stream without the data. -/
def FrameStream.quiet (s : FrameStream) : FrameStream :=
  { s with frames := Frame.controls s.frames }

/-- The same link without the data. -/
def Socket.quiet (s : Socket FrameStream) : Socket FrameStream :=
  { s with source := s.source.quiet }

/-- The same link to the coordinator without the data. -/
def CoordinatorLink.quiet (l : CoordinatorLink) : CoordinatorLink :=
  { l with socket := l.socket.quiet }

/-- The same dialogue, with some frames still to come. -/
def Dialogue.leave (d : Dialogue (Socket FrameStream)) (frames : List Frame) :
    Dialogue (Socket FrameStream) :=
  { d with link := { d.link with source := { d.link.source with frames } } }

namespace Frame

variable {f : Frame} {frames : List Frame}

theorem controls_cons_of_relayed (h : f.isRelayed = true) :
    controls (f :: frames) = controls frames :=
  List.filter_cons_of_neg (by simp [h])

theorem controls_cons_of_control (h : f.isRelayed = false) :
    controls (f :: frames) = f :: controls frames :=
      List.filter_cons_of_pos (by simp [h])

theorem relayed_cons_of_relayed (h : f.isRelayed = true) :
    relayed (f :: frames) = f :: relayed frames :=
  List.filter_cons_of_pos h

theorem relayed_cons_of_control (h : f.isRelayed = false) :
    relayed (f :: frames) = relayed frames :=
  List.filter_cons_of_neg (by simp [h])

/-- What is left out in front is no data. -/
theorem relayed_drop {n : Nat} (h : ∀ f ∈ frames.take n, f.isRelayed = false) :
    relayed (frames.drop n) = relayed frames := by
  have hnone : (frames.take n).filter isRelayed = [] :=
    List.filter_eq_nil_iff.mpr fun f hf => by simp [h f hf]
  have hsplit := List.filter_append (p := isRelayed) (frames.take n) (frames.drop n)
  rw [List.take_append_drop, hnone, List.nil_append] at hsplit
  exact hsplit.symm

end Frame

/-- Data tells no time. -/
theorem ClockSync.Awaited.time?_of_isRelayed (a : Awaited) {f : Frame}
    (h : f.isRelayed = true) :
    a.time? f = none := by
  cases f with
  | taggedMessage m => cases a <;> rfl
  | portAbsent notice => cases a <;> rfl
  | _ => cases h

namespace Disturbance

variable {α β : Type} {d d' : Dialogue (Socket FrameStream)} {frames : List Frame}

/-- What waits is received, and the rest is still to come. -/
theorem receive_leave (peer : String) (d : Dialogue (Socket FrameStream))
    (f : Frame) (frames : List Frame) :
    Conversation.receive peer (d.leave (f :: frames)) = (.ok f, d.leave frames) :=
      rfl

/-- What is sent has nothing to do with what is to come. -/
theorem send_leave (peer : String) (f : Frame)
    (d : Dialogue (Socket FrameStream)) (frames : List Frame) :
    Conversation.send peer f (d.leave frames)
      = ((Conversation.send peer f d).1,
        (Conversation.send peer f d).2.leave frames) := rfl

/-! ### Joining -/

/-- A federate that the coordinator welcomes joins whatever the coordinator says
next. -/
theorem join_leave {federate : FederateId} {id : String} {neighbors : Neighbors}
    (h : Joining.join federate id neighbors (d.leave (.ack :: frames))
      = (.ok (), d')) :
    ∃ after : Dialogue (Socket FrameStream),
      d' = after.leave frames ∧ after.inbox = d.inbox ∧ after.clock = d.clock ∧
      ∀ other, Joining.join federate id neighbors (d.leave (.ack :: other))
        = (.ok (), after.leave other) := by
  obtain ⟨⟨⟩, told, htold, h⟩ := exists_of_bind_ok h
  rw [send_leave] at htold
  obtain ⟨hok, rfl⟩ := Prod.mk.inj htold
  rw [bind_of_ok (receive_leave _ _ _ _)] at h
  obtain ⟨hok', rfl⟩ := Prod.mk.inj ((send_leave _ _ _ _).symm.trans h)
  refine ⟨_, rfl, rfl, rfl, fun other => ?_⟩
  have hsent : Conversation.send "coordinator" (.joinFederation federate id)
      (d.leave (.ack :: other)) = (.ok (), (Conversation.send "coordinator"
        (.joinFederation federate id) d).2.leave (.ack :: other)) :=
    (send_leave _ _ _ _).trans (Prod.ext hok rfl)
  rw [Joining.join, bind_of_ok hsent, bind_of_ok (receive_leave _ _ _ _)]
  exact (send_leave _ _ _ _).trans (Prod.ext hok' rfl)

/-! ### Synchronising the clock -/

/-- A conversation that a frame of data has ended: the federate has taken in
nothing, and its clock is not corrected. -/
structure Disturbed (d : Dialogue (Socket FrameStream))
    (outcome : Except Fault α × Dialogue (Socket FrameStream)) : Prop where
  fault : ∃ expected f,
    f.isRelayed = true ∧ outcome.1 = .error (ClockSync.unexpected expected f)
  inbox : outcome.2.inbox = d.inbox
  offset : outcome.2.clock.offset = d.clock.offset

/-- A conversation that reads so many frames if it succeeds, and takes them all
for answers: if there is data among them, it is disturbed, and otherwise it goes
as it does without data. -/
def Reads (count : Nat) (c : Conversation (Socket FrameStream) α) : Prop :=
  ∀ d frames a d', c (d.leave (Frame.controls frames)) = (.ok a, d') →
    (∀ f ∈ frames.take count, f.isRelayed = false) ∧
        (∃ after : Dialogue (Socket FrameStream), c (d.leave frames) = (.ok a,
          after.leave (frames.drop count)) ∧ d' = after.leave (Frame.controls
          (frames.drop count)) ∧
          after.inbox = d.inbox ∧ after.clock.offset = d.clock.offset) ∨
      (∃ f ∈ frames.take count, f.isRelayed = true) ∧
        Disturbed d (c (d.leave frames))

theorem reads_pure (a : α) : Reads 0 (pure a) := by
  rintro d frames _ _ ⟨⟩
  exact .inl ⟨by simp, d, rfl, rfl, rfl, rfl⟩

theorem reads_throw (e : Fault) :
    Reads 0 (throw e : Conversation (Socket FrameStream) α) := by
  rintro d frames _ _ ⟨⟩

theorem reads_now : Reads 0 Conversation.now := by
  rintro d frames _ _ ⟨⟩
  exact .inl ⟨by simp, { d with clock := d.clock.tick }, rfl, rfl, rfl, rfl⟩

theorem reads_send (peer : String) (f : Frame) :
    Reads 0 (Conversation.send peer f) := by
  intro d frames a d' h
  rw [send_leave] at h
  obtain ⟨hok, rfl⟩ := Prod.mk.inj h
  refine .inl ⟨by simp, (Conversation.send peer f d).2, ?_, rfl, rfl, rfl⟩
  rw [send_leave, hok]
  rfl

/-- To receive a frame and go on with it, if it is an answer. -/
theorem reads_receive (peer : String) (expected : ClockSync.Awaited)
    {answer : Frame → Conversation (Socket FrameStream) α} (hdata : ∀ f,
      f.isRelayed = true → answer f = throw (ClockSync.unexpected expected f))
    (hcontrol : ∀ f, f.isRelayed = false → Reads 0 (answer f)) :
    Reads 1 (Conversation.receive peer >>= answer) := by
  intro d frames a d' h
  cases frames with
  | nil => cases h
  | cons f rest =>
    cases hf : f.isRelayed with
    | true =>
      refine .inr ⟨⟨f, List.mem_cons_self, hf⟩, ?_⟩
      rw [bind_of_ok (receive_leave _ _ _ _), hdata f hf]
      exact ⟨⟨expected, f, hf, rfl⟩, rfl, rfl⟩
    | false =>
      rw [Frame.controls_cons_of_control hf, bind_of_ok (receive_leave _ _ _ _)]
        at h
      rw [bind_of_ok (receive_leave _ _ _ _)]
      rcases hcontrol f hf d rest a d' h with ⟨-, hafter⟩ | ⟨⟨_, hnone, -⟩, -⟩
      · refine .inl ⟨fun g hg => ?_, hafter⟩
        rwa [List.mem_singleton.mp hg]
      · cases hnone

theorem Reads.bind {m n : Nat} {c : Conversation (Socket FrameStream) α}
    {k : α → Conversation (Socket FrameStream) β} (hc : Reads m c)
    (hk : ∀ a, Reads n (k a)) :
    Reads (m + n) (c >>= k) := by
  intro d frames b d' h
  obtain ⟨a, middle, hfirst, hsecond⟩ := exists_of_bind_ok h
  have htake : frames.take (m + n) = frames.take m ++ (frames.drop m).take n :=
    List.take_add
  rcases hc d frames a middle hfirst with
    ⟨hquiet, after, hafter, rfl, hinbox, hoffset⟩ | ⟨hdata, hdisturbed⟩
  · rw [bind_of_ok hafter, htake]
    rcases hk a after (frames.drop m) b d' hsecond with
      ⟨hquiet', after', hafter', rfl, hinbox', hoffset'⟩
        | ⟨⟨f, hf, hrelayed⟩, hdisturbed⟩
    · rw [List.drop_drop] at hafter' ⊢
      refine .inl
        ⟨?_, after', hafter', rfl, hinbox'.trans hinbox, hoffset'.trans hoffset⟩
      exact List.forall_mem_append.mpr ⟨hquiet, hquiet'⟩
    · refine .inr
        ⟨⟨f, List.mem_append_right _ hf, hrelayed⟩, hdisturbed.fault, ?_, ?_⟩
      · exact hdisturbed.inbox.trans hinbox
      · exact hdisturbed.offset.trans hoffset
  · obtain ⟨f, hf, hrelayed⟩ := hdata
    obtain ⟨⟨expected, g, hg, hfault⟩, hinbox, hoffset⟩ := hdisturbed
    have hfailed : (c >>= k) (d.leave frames)
        = (.error (ClockSync.unexpected expected g), (c (d.leave frames)).2) :=
      bind_of_error (Prod.ext hfault rfl)
    refine .inr ⟨⟨f, htake ▸ List.mem_append_left _ hf, hrelayed⟩, ?_⟩
    rw [hfailed]
    exact ⟨⟨expected, g, hg, rfl⟩, hinbox, hoffset⟩

theorem reads_exchange (federate : FederateId) :
    Reads 2 (ClockSync.exchange federate) := by
  have hawait (a : ClockSync.Awaited) : Reads 1 (ClockSync.await a) := by
    refine reads_receive _ a (fun f hf => ?_) fun f _ => ?_
    · rw [a.time?_of_isRelayed hf]
    · rcases a.time? f with - | time
      · exact reads_throw _
      · exact reads_pure _
  show Reads (1 + (0 + (0 + (0 + (1 + 0))))) _
  refine (hawait .t1).bind fun _ =>
    reads_now.bind fun _ => (reads_send _ _).bind fun _ => ?_
  exact reads_now.bind fun _ => (hawait .t4).bind fun _ => reads_pure _

theorem reads_collect (federate : FederateId) (n : Nat) :
    Reads (2 * n) (ClockSync.collect federate n) := by
  induction n with
  | zero => exact reads_pure _
  | succ n ih =>
    rw [Nat.mul_succ, Nat.add_comm]
    exact (reads_exchange federate).bind fun _ => ih.bind fun _ => reads_pure _

/-! ### Asking for addresses -/

section Asking

variable (plan : Plan) (before : Inbox) (data : List Frame)

/-- What has become of the data: it has been taken in, each frame once and in
order, perhaps among frames from peers, and the rest is still to come. -/
def Accounted (inbox : Inbox) (frames : List Frame) : Prop :=
  ∃ arrivals : List Incoming,
    inbox = (inTurn plan.dispatchIncoming arrivals before).2 ∧
    (arrivals.filter (·.source = .coordinator)).map (·.frame) ++
      Frame.relayed frames = data

variable {plan before data}
variable {inbox : Inbox} {f : Frame}

theorem Accounted.control (h : Accounted plan before data inbox (f :: frames))
    (hf : f.isRelayed = false) :
    Accounted plan before data inbox frames := by
  obtain ⟨arrivals, hinbox, hdata⟩ := h
  rw [Frame.relayed_cons_of_control hf] at hdata
  exact ⟨arrivals, hinbox, hdata⟩

theorem Accounted.relayed (h : Accounted plan before data inbox (f :: frames))
    (hf : f.isRelayed = true) (now : Instant) : Accounted plan before data
    (plan.dispatch .coordinator now f inbox).2 frames := by
  obtain ⟨arrivals, rfl, hdata⟩ := h
  refine ⟨arrivals ++ [⟨.coordinator, now, f⟩], by rw [inTurn_append]; rfl, ?_⟩
  rw [← hdata, Frame.relayed_cons_of_relayed hf, List.filter_append,
    List.map_append, List.append_assoc]
  rfl

/-- Frames from peers make no difference to what becomes of the data. -/
theorem Accounted.peers (h : Accounted plan before data inbox frames)
    {arrivals : List Incoming}
    (harrivals : ∀ arrival ∈ arrivals, arrival.source ≠ .coordinator) :
    Accounted plan before data
      (inTurn plan.dispatchIncoming arrivals inbox).2 frames := by
  obtain ⟨earlier, rfl, hdata⟩ := h
  refine ⟨earlier ++ arrivals, (inTurn_append _ _ _ _).symm, ?_⟩
  have hnone : arrivals.filter (·.source = .coordinator) = [] :=
    List.filter_eq_nil_iff.mpr fun arrival h => by simpa using harrivals arrival h
  rw [List.filter_append, hnone, List.append_nil, hdata]

variable (plan before data)

/-- Two dialogues over a stream with data and over the stream without, which
differ in nothing but the data that has been taken in, and in how often the
clock was read. -/
structure InStep (d d' : Dialogue (Socket FrameStream)) : Prop where
  link : d'.link = d.link.quiet
  pauses : d'.pauses = d.pauses
  offset : d'.clock.offset = d.clock.offset
  readings : d'.clock.readings = d.clock.readings
  accepted : ∀ f ∈ d.link.source.frames,
    f.isRelayed = true → ∀ detail, ¬ plan.Refuses f detail
  accounted : Accounted plan before data d.inbox d.link.source.frames

variable {plan before data}

theorem alike_send (peer : String) (f : Frame) :
    Alike (InStep plan before data) (Conversation.send peer f)
      (Conversation.send peer f) (InStep plan before data) := by
  intro d d' h
  have hsend : Link.send f d'.link
      = ((Link.send f d.link).1, Socket.quiet (Link.send f d.link).2) := by
    rw [h.link]
    rfl
  simp only [Conversation.send, hsend]
  exact ⟨trivial, rfl, h.pauses, h.offset, h.readings, h.accepted, h.accounted⟩

theorem alike_pause (length : Duration) :
    Alike (InStep plan before data) (Conversation.pause length)
      (Conversation.pause length) (InStep plan before data) := by
  intro d d' h
  exact ⟨rfl, h.link, congrArg (· ++ [length]) h.pauses, h.offset, h.readings,
    h.accepted, h.accounted⟩

/-- Links of which one is the other without the data are so also with other
frames to come. -/
theorem link_leave {other frames' : List Frame}
    (h : (d'.leave other).link = (d.leave frames).link.quiet) :
    (d'.leave (Frame.controls frames')).link = (d.leave frames').link.quiet :=
  congrArg (fun link : Socket FrameStream =>
    { link with source := { link.source with frames := Frame.controls frames' } }) h

theorem nextControl_nil (plan : Plan) (d : Dialogue (Socket FrameStream)) :
    Joining.nextControl plan (d.leave [])
      = (.error (.ofRead "coordinator" d.link.source.ending), d.leave []) := by
  rw [Joining.nextControl]
  rfl

theorem nextControl_of_control (plan : Plan) (d : Dialogue (Socket FrameStream))
    (hf : f.isRelayed = false) :
    Joining.nextControl plan (d.leave (f :: frames)) = (.ok f, d.leave frames) := by
  rw [Joining.nextControl]
  split
  · next h => cases h
  · next h =>
    cases h
    rw [if_neg (by simp [hf])]
    rfl

/-- Data that is not refused is taken in, and then the next frame is looked at. -/
theorem nextControl_of_relayed (d : Dialogue (Socket FrameStream))
    (hf : f.isRelayed = true) (haccepts : ∀ detail, ¬ plan.Refuses f detail) :
    Joining.nextControl plan (d.leave (f :: frames))
      = Joining.nextControl plan (Dialogue.leave { d with
          inbox := (plan.dispatch .coordinator d.clock.now f d.inbox).2
          clock := d.clock.tick } frames) := by
  have hdispatch :=
    Plan.dispatch_of_accepts .coordinator d.clock.now d.inbox haccepts
  have hdispatch' : plan.dispatch .coordinator (d.leave (f :: frames)).clock.now f
      (d.leave (f :: frames)).inbox = _ := hdispatch
  conv_lhs => rw [Joining.nextControl]
  split
  · next h => cases h
  · next h =>
    cases h
    rw [if_pos hf, hdispatch]
    simp only [Dialogue.dispatch]
    rw [hdispatch']
    rfl

theorem alike_nextControl :
    Alike (InStep plan before data) (Joining.nextControl plan)
      (Joining.nextControl plan) (InStep plan before data) := by
  have hstream (frames : List Frame) (d d' : Dialogue (Socket FrameStream))
      (h : InStep plan before data (d.leave frames)
        (d'.leave (Frame.controls frames))) :
      (Joining.nextControl plan (d.leave frames)).1
          = (Joining.nextControl plan (d'.leave (Frame.controls frames))).1 ∧
        InStep plan before data (Joining.nextControl plan (d.leave frames)).2
          (Joining.nextControl plan (d'.leave (Frame.controls frames))).2 := by
    -- over the frames that have not been read: data is skipped, a control frame
    -- ends the wait
    induction frames generalizing d with
    | nil =>
      have hending : d'.link.source.ending = d.link.source.ending :=
        congrArg (·.source.ending) h.link
      rw [Frame.controls, List.filter_nil, nextControl_nil,
        nextControl_nil, hending]
      exact ⟨rfl, h⟩
    | cons f frames ih =>
      have haccepted (g : Frame) (hg : g ∈ frames) :=
        h.accepted g (List.mem_cons_of_mem f hg)
      cases hf : f.isRelayed with
      | true =>
        rw [Frame.controls_cons_of_relayed hf] at h ⊢
        rw [nextControl_of_relayed d hf (h.accepted f List.mem_cons_self hf)]
        refine ih _
          ⟨?_, h.pauses, h.offset, h.readings, haccepted, h.accounted.relayed hf _⟩
        exact link_leave h.link
      | false =>
        rw [Frame.controls_cons_of_control hf] at h ⊢
        rw [nextControl_of_control plan d hf, nextControl_of_control plan d' hf]
        refine ⟨rfl, ?_, h.pauses, h.offset, h.readings, haccepted,
          h.accounted.control hf⟩
        exact link_leave h.link
  intro d d' h
  have hd' : d' = d'.leave (Frame.controls d.link.source.frames) := by
    have hframes : d'.link.source.frames = Frame.controls d.link.source.frames :=
      congrArg (·.source.frames) h.link
    rw [← hframes]
    rfl
  rw [hd'] at h ⊢
  exact hstream d.link.source.frames d d' h

/-- The answers about addresses are the same with data among them. -/
theorem alike_queryAddress (coordinator : HostAddress) (policy : RetryPolicy)
    (peer : FederateId) :
    Alike (InStep plan before data)
      (Joining.queryAddress plan coordinator policy peer)
      (Joining.queryAddress plan coordinator policy peer)
      (InStep plan before data) := by
  have hfrom (left n : Nat) : Alike (InStep plan before data)
      (Joining.queryFrom plan coordinator policy peer left n)
      (Joining.queryFrom plan coordinator policy peer left n)
      (InStep plan before data) := by
    induction left generalizing n with
    | zero => exact alike_throw fun _ _ => id
    | succ left ih =>
      refine (alike_send _ _).bind (fun _ => ?_) fun _ _ => id
      refine Alike.bind alike_nextControl (fun frame => ?_) fun _ _ => id
      cases frame with
      | addressQueryReply port host =>
        cases port with
        -- an address ends the inquiry, and its absence starts it again
        | some port => exact alike_pure fun _ _ => id
        | none => exact (alike_pause _).bind (fun _ => ih (n + 1)) fun _ _ => id
      | _ => exact alike_throw fun _ _ => id
  exact hfrom policy.attempts 0

end Asking

end Disturbance

end Federation
