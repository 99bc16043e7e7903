/-
Federation/Proofs/PeerReading.lean

What a peer says, up to the first thing that is wrong.

The reader of a peer takes in frame by frame what comes over the link, until
there is nothing more, or something is wrong with it. Whatever the bytes are, it
does what would be done if the frames before that had been dispatched one after
another (`readPeer_of_stops`, by induction on what is read), and one thing more:
it reports a frame that is malformed or refused. A peer that goes away is not
reported, wherever its last frame breaks off.

It is said first what a single dispatch leaves alone: a frame that is refused
has the clock read, and nothing else; one that is taken in may wake those who
wait, who read the clock in their turn.
-/
import Mathlib
import Federation.Node.Reading
import Federation.Proofs.Reading
import Federation.Proofs.Refusal
import Federation.Proofs.Registration

namespace Federation

variable {μ : Type}

/-! ### What a dispatch leaves alone -/

namespace Federate

variable {f : Federate μ} {frame : Frame} {detail : String} {source : Destination}

/-- What changes in a federate that takes in frames, or that wakes: not the
plan, and of the clock only how often it was read. -/
structure Attends (f f' : Federate μ) (count : Nat) : Prop where
  plan : f'.plan = f.plan
  clock : f'.clock = f.clock.after count

theorem Attends.refl (f : Federate μ) : f.Attends f 0 := ⟨rfl, rfl⟩

theorem Attends.trans {f' f'' : Federate μ} {m n : Nat} (h : f.Attends f' m)
    (h' : f'.Attends f'' n) :
    f.Attends f'' (m + n) where
  plan := h'.plan.trans h.plan
  clock := by
    rw [h'.clock, h.clock, Clock.after, Clock.after, Clock.after, Nat.add_assoc]

theorem attends_lookOne (f : Federate μ) (e : AwaitEntry) :
    ∃ count, f.Attends (f.lookOne e).2 count := by
  rw [lookOne]
  split
  · exact ⟨0, .refl f⟩
  · rcases e.inlet.look e.wait f.clock.now f.inbox.board f.ports with
      ⟨status | remaining, board, ports⟩
    · exact ⟨1, rfl, rfl⟩
    · exact ⟨1, rfl, rfl⟩

theorem attends_looks (entries : List AwaitEntry) (f : Federate μ) :
    ∃ count, f.Attends (inTurn (fun e f => lookOne f e) entries f).2 count := by
  induction entries generalizing f with
  | nil => exact ⟨0, .refl f⟩
  | cons e entries ih =>
    obtain ⟨m, hlook⟩ := attends_lookOne f e
    obtain ⟨n, hrest⟩ := ih (f.lookOne e).2
    exact ⟨m + n, hlook.trans hrest⟩

theorem attends_wake (f : Federate μ) : ∃ count, f.Attends f.wake count := by
  obtain ⟨count, hplan, hclock⟩ := attends_looks f.awaits f
  exact ⟨count, hplan, hclock⟩

/-- A dispatch has the clock read at least once. -/
theorem attends_dispatch (f : Federate μ) (source : Destination) (frame : Frame) :
    ∃ count, f.Attends (f.dispatch source frame).2 (count + 1) := by
  let taken := f.plan.dispatch source f.clock.now frame f.inbox
  let f' : Federate μ := { f with inbox := taken.2, clock := f.clock.tick }
  have hdispatch : (f.dispatch source frame).2 = if taken.1.isOk &&
      frame.isRecorded then f'.wake else f' := rfl
  rw [hdispatch]
  split
  · obtain ⟨count, hplan, hclock⟩ := attends_wake f'
    exact ⟨count, hplan, hclock.trans (Clock.after_succ f.clock count).symm⟩
  · exact ⟨0, rfl, rfl⟩

/-- A frame that is refused has the clock read, and that is all. -/
theorem dispatch_of_refuses (h : f.plan.Refuses frame detail)
    (source : Destination) :
    f.dispatch source frame
      = (.error (.protocol source.render detail),
        { f with clock := f.clock.tick }) := by
  rw [dispatch, Plan.dispatch_of_refuses _ _ _ h]
  rfl

theorem isOk_dispatch_of_accepts (h : ∀ detail, ¬ f.plan.Refuses frame detail)
    (source : Destination) :
    (f.dispatch source frame).1.isOk = true := by
  rw [dispatch, Plan.dispatch_of_accepts _ _ _ h]
  rfl

end Federate

/-! ### Frame by frame -/

namespace Stop

/-- The report about the end of what a peer says, if there is one. -/
def peerFault? (peer : FederateId) : Stop → Option Fault
  | .unread e => if e.isDisconnect then none else some (.frame peer.render e)
  | .refused detail => some (.protocol (Destination.federate peer).render detail)

/-- How often the clock is read for the frame at which the reader stops. -/
def readings : Stop → Nat
  | .unread _ => 0
  | .refused _ => 1

end Stop

namespace Node

variable {κ : Type} [FrameSource κ]
variable {n : Node μ} {plan : Plan} {peer : FederateId} {s s' : κ} {f : Frame}
  {frames : List Frame} {stop : Stop}

/-- Takes in frames, one after another. -/
def dispatchAll (source : Destination) (frames : List Frame) (n : Node μ) :
    List (Except Fault Dispatched) × Node μ :=
  inTurn (fun f n => n.dispatch source f) frames n

/-- The node of which the clock was read so often, and to which this was
reported. -/
def stopped (count : Nat) (fault : Option Fault) (n : Node μ) : Node μ :=
  { n with
    federate := { n.federate with clock := n.federate.clock.after count }
    faults := n.faults ++ fault.toList }

theorem stopped_zero_none (n : Node μ) : n.stopped 0 none = n := by
  rw [stopped, Option.toList_none, List.append_nil]
  rfl

theorem readPeer_of_unread {e : FrameError}
    (h : FrameSource.next s = (.error e, s'))
    (hrunning : n.transport.shuttingDown = false) :
    n.readPeer peer s = n.stopped 0 ((Stop.unread e).peerFault? peer) := by
  have hreport : peerReport? peer n.transport.shuttingDown e
      = (Stop.unread e).peerFault? peer := by
    rw [peerReport?, hrunning, Bool.false_or]
    rfl
  rw [readPeer]
  split
  · next h' =>
    cases h.symm.trans h'
    rw [hreport]
    split
    · next fault hfault =>
      rw [hfault]
      rfl
    · next hfault => rw [hfault, stopped_zero_none]
  · next h' => cases h.symm.trans h'

theorem readPeer_of_refused (h : FrameSource.next s = (.ok f, s')) {detail : String}
    (hf : n.federate.plan.Refuses f detail) :
    n.readPeer peer s = n.stopped 1 ((Stop.refused detail).peerFault? peer) := by
  rw [readPeer]
  split
  · next h' => cases h.symm.trans h'
  · next h' =>
    cases h.symm.trans h'
    rw [dispatch, Federate.dispatch_of_refuses hf]
    rfl

theorem readPeer_of_taken (h : FrameSource.next s = (.ok f, s'))
    (hf : ∀ detail, ¬ n.federate.plan.Refuses f detail) :
    n.readPeer peer s = (n.dispatch (.federate peer) f).2.readPeer peer s' := by
  have hok : (n.dispatch (.federate peer) f).1.isOk = true :=
    Federate.isOk_dispatch_of_accepts hf _
  conv_lhs => rw [readPeer]
  split
  · next h' => cases h.symm.trans h'
  · next h' =>
    cases h.symm.trans h'
    rcases hdispatch : n.dispatch (.federate peer) f with ⟨e | outcome, n'⟩
    · rw [hdispatch] at hok
      cases hok
    · rfl

theorem plan_dispatch (n : Node μ) (source : Destination) (f : Frame) :
    (n.dispatch source f).2.federate.plan = n.federate.plan := by
  obtain ⟨count, hattends⟩ := n.federate.attends_dispatch source f
  exact hattends.plan

/-- The reader does what is done if the frames before the stop are dispatched,
and then it reports the stop. -/
theorem readPeer_of_stops (h : Stops plan.Refuses s frames stop)
    (hplan : n.federate.plan = plan)
    (hrunning : n.transport.shuttingDown = false) :
    n.readPeer peer s
      = (n.dispatchAll (.federate peer) frames).2.stopped stop.readings
        (stop.peerFault? peer) := by
  induction h generalizing n with
  | unread h => exact readPeer_of_unread h hrunning
  | refused h hf =>
    subst hplan
    exact readPeer_of_refused h hf
  | taken h hf _ ih =>
    subst hplan
    rw [readPeer_of_taken h hf, dispatchAll, inTurn_cons]
    exact ih (plan_dispatch n _ _) hrunning

/-- What is dispatched is no fault of the links. -/
theorem dispatchAll_leaves (n : Node μ) (source : Destination)
    (frames : List Frame) :
    (n.dispatchAll source frames).2.transport = n.transport ∧
      (n.dispatchAll source frames).2.faults = n.faults := by
  induction frames generalizing n with
  | nil => exact ⟨rfl, rfl⟩
  | cons f frames ih =>
    rw [dispatchAll, inTurn_cons]
    exact ih (n.dispatch source f).2

theorem isOk_of_mem_dispatchAll
    (h : ∀ f ∈ frames, ∀ detail, ¬ plan.Refuses f detail)
    (hplan : n.federate.plan = plan) (source : Destination) :
    ∀ result ∈ (n.dispatchAll source frames).1, result.isOk = true := by
  induction frames generalizing n with
  | nil => exact List.forall_mem_nil _
  | cons f frames ih =>
    obtain ⟨hf, hframes⟩ := List.forall_mem_cons.mp h
    rw [dispatchAll, inTurn_cons]
    refine List.forall_mem_cons.mpr
      ⟨?_, ih hframes ((plan_dispatch n source f).trans hplan)⟩
    subst hplan
    exact Federate.isOk_dispatch_of_accepts hf source

/-! ### Bytes that come from a peer -/

/-- **What a peer says, up to the first thing that is wrong.** Whatever bytes
come from a peer, the frames before the first one that is malformed or refused
are taken in as if they had been dispatched directly. That frame is the only
fault reported, and none is if the bytes just end; bytes behind it make no
difference. If the bytes break off earlier, everything is the same, or fewer of
the frames are taken in and nothing is reported. -/
theorem peer_reading (n : Node μ) (peer : FederateId) (bytes : ByteArray)
    (hrunning : n.transport.shuttingDown = false) :
    let read (bytes : ByteArray) : Node μ := n.readPeer peer ({ bytes } : Cursor)
    (∃ taken stop, TakenFrom n.federate.plan.Refuses bytes taken stop) ∧
    ∀ taken stop, TakenFrom n.federate.plan.Refuses bytes taken stop →
      let (results, direct) := n.dispatchAll (.federate peer) taken
      (∀ result ∈ results, result.isOk = true) ∧
      direct.transport = n.transport ∧ direct.faults = n.faults ∧
      read bytes = direct.stopped stop.readings (stop.peerFault? peer) ∧
      (∀ e, stop = .unread e → (e.isDisconnect = true ↔ e = .io .endOfInput)) ∧
      (stop ≠ .unread (.io .endOfInput) →
        ∀ more, read (bytes ++ more) = read bytes) ∧
      ∀ count, read (bytes.extract 0 count) = read bytes ∨
        ∃ earlier, earlier <+: taken ∧
          read (bytes.extract 0 count)
            = (n.dispatchAll (.federate peer) earlier).2 := by
  intro read
  have hread {bytes : ByteArray} {taken : List Frame} {stop : Stop}
      (h : TakenFrom n.federate.plan.Refuses bytes taken stop) :
      read bytes = (n.dispatchAll (.federate peer) taken).2.stopped stop.readings
        (stop.peerFault? peer) :=
    readPeer_of_stops h rfl hrunning
  refine ⟨exists_stops _ _, fun taken stop h => ?_⟩
  obtain ⟨htransport, hfaults⟩ := n.dispatchAll_leaves (.federate peer) taken
  refine ⟨isOk_of_mem_dispatchAll h.accepted rfl _, htransport, hfaults,
    hread h, ?_, ?_, ?_⟩
  · rintro e rfl
    exact h.isDisconnect_iff
  · intro hstop more
    rw [hread h, hread (h.append hstop more)]
  · -- the same is read, or the bytes break off in one of the frames
    intro count
    rcases h.extract count with hsame | ⟨earlier, hprefix, hearlier⟩
    · exact .inl ((hread hsame).trans (hread h).symm)
    · exact .inr ⟨earlier, hprefix, (hread hearlier).trans (stopped_zero_none _)⟩

/-- The last federate of a triangle, to which nothing has come. -/
def lastOfTriangle (plan : Plan) : Node Empty where
  federate :=
    { plan
      context := ⟨⟨2⟩, .decentralized, .zero, {}⟩
      ports := .fresh ⟨.epoch, 0⟩
      clock := { readings := fun _ => .epoch } }
  transport := { federate := ⟨2⟩ }

/-- A notice, a byte with which no frame begins, and the notice again for a
later tag. -/
def interruptedNotices : ByteArray :=
  [23, 1, 0, 2, 0, 0, 0, 0, 0, 0, 0, 0, 0, 9, 0, 0, 0, 99,
    23, 1, 0, 2, 0, 0, 0, 0, 0, 0, 0, 0, 0, 12, 0, 0, 0].toByteArray

/-- The first notice is taken in and the byte is reported; the second notice is
not looked at. -/
theorem peer_reading_of_interruptedNotices :
    ∃ receiver, Plan.build ⟨2⟩ Plan.triangle .decentralized (fun _ => .zero)
      = .ok receiver ∧
      let n := (lastOfTriangle receiver).readPeer ⟨1⟩
        ({ bytes := interruptedNotices } : Cursor)
      n.faults = [.frame (FederateId.render ⟨1⟩) (.unknownType 99)] ∧
      n.federate.inbox.board.status ⟨1⟩ ⟨.epoch, 9⟩ = .absent ∧
      n.federate.inbox.board.status ⟨1⟩ ⟨.epoch, 12⟩ = .unknown := by
  obtain ⟨receiver, hbuild⟩ : ∃ receiver,
      Plan.build ⟨2⟩ Plan.triangle .decentralized (fun _ => .zero)
        = .ok receiver := ⟨_, rfl⟩
  have htaken : (receiver.dispatch .coordinator .epoch
        (.portAbsent ⟨⟨1⟩, ⟨2⟩, ⟨.epoch, 9⟩⟩) {}).1.isOk = true := by
    cases hbuild
    decide +kernel
  have hstops : Stops receiver.Refuses ({ bytes := interruptedNotices } : Cursor)
      [.portAbsent ⟨⟨1⟩, ⟨2⟩, ⟨.epoch, 9⟩⟩] (.unread (.unknownType 99)) :=
    .taken rfl (Plan.not_refuses_of_isOk htaken) (.unread rfl)
  obtain ⟨-, -, -, hread, -⟩ :=
    (peer_reading (lastOfTriangle receiver) ⟨1⟩ interruptedNotices rfl).2
      _ _ hstops
  refine ⟨receiver, hbuild, ?_⟩
  dsimp only at hread ⊢
  rw [hread]
  cases hbuild
  decide +kernel

end Node

end Federation
