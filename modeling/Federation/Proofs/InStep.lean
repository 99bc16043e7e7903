/-
Federation/Proofs/InStep.lean

Starts that differ in what has come.

What the coordinator relays to a federate that starts goes into its inbox, and
each frame has the clock read once more. Here two starts run side by side, one
with data still to come from the coordinator, and one without
(`Startup.InStep`). Nothing that follows the registration of the link looks at
the inbox, and nothing but the taking in of data reads the clock, so the two
stay in step, part by part (`alike_proceed_inStep`), by the rules for procedures
that go alike. Two of the parts need an argument of their own: a peer that comes
is accepted or refused, and its link read, whatever has come before
(`accept_having`, by induction over the frames of the peer), and what peers say
to one another has nothing to do with the clock (`alike_introduce`,
`alike_hear`).
-/
import Mathlib
import Federation.Proofs.Disturbance
import Federation.Proofs.Outline

namespace Federation

variable {μ : Type}

open Procedure Start Disturbance

/-! ### Sessions that differ in what has arrived -/

namespace Federate

variable {f : Federate μ}

/-- The same federate, to which other things have come, and which has read its
clock so many times. -/
def having (inbox : Inbox) (readCount : Nat) (f : Federate μ) : Federate μ :=
  { f with inbox, clock := { f.clock with readCount } }

/-- Nobody wakes where nobody waits. -/
theorem wake_of_idle (h : f.awaits = []) : f.wake = f := by
  rw [wake, h]
  show { f with awaits := [] } = f
  rw [← h]

theorem dispatch_of_idle (h : f.awaits = []) (source : Destination)
    (frame : Frame) :
    f.dispatch source frame = ((f.plan.dispatch source f.clock.now frame f.inbox).1,
      f.having (f.plan.dispatch source f.clock.now frame f.inbox).2
        (f.clock.readCount + 1)) := by
  have hwake := wake_of_idle
    (f := { f with
      inbox := (f.plan.dispatch source f.clock.now frame f.inbox).2
      clock := f.clock.tick }) h
  rw [dispatch]
  simp only [hwake, ite_self]
  rfl

end Federate

/-- The same session, to which other things have come. -/
def Session.having (inbox : Inbox) (readCount : Nat) (s : Session μ) : Session μ :=
  s.withFederate (·.having inbox readCount)

namespace Node

/-- The same node, to which other things have come. -/
def having (inbox : Inbox) (readCount : Nat) (n : Node μ) : Node μ :=
  { n with federate := n.federate.having inbox readCount }

variable {n : Node μ} {peer : FederateId} {f : Frame} {frames : List Frame}
  {ending : FrameError}

theorem readPeer_nil :
    n.readPeer peer (⟨[], ending⟩ : FrameStream) = { n with
        faults := n.faults ++
          (peerReport? peer n.transport.shuttingDown ending).toList } := by
  unfold readPeer
  split
  · next hnext =>
    cases hnext
    split
    · next hreport =>
      rw [hreport]
      rfl
    · next hreport => rw [hreport, Option.toList, List.append_nil]
  · next hnext => cases hnext

theorem dispatch_of_idle (h : n.federate.awaits = []) (source : Destination)
    (f : Frame) :
    let taken :=
      n.federate.plan.dispatch source n.federate.clock.now f n.federate.inbox
    n.dispatch source f
      = (taken.1, n.having taken.2 (n.federate.clock.readCount + 1)) := by
  rw [dispatch, Federate.dispatch_of_idle h]
  rfl

theorem readPeer_of_refuses (h : n.federate.awaits = []) {detail : String}
    (hrefuses : n.federate.plan.Refuses f detail) :
    n.readPeer peer (⟨f :: frames, ending⟩ : FrameStream)
      = (n.having n.federate.inbox (n.federate.clock.readCount + 1)).report
          (.protocol (Destination.federate peer).render detail) := by
  have hdispatch := dispatch_of_idle h (.federate peer) f
  rw [Plan.dispatch_of_refuses _ _ _ hrefuses] at hdispatch
  rw [readPeer]
  split
  · next h => cases h
  · next h =>
    cases h
    rw [hdispatch]

theorem readPeer_of_accepts (h : n.federate.awaits = [])
    (haccepts : ∀ detail, ¬ n.federate.plan.Refuses f detail) :
    n.readPeer peer (⟨f :: frames, ending⟩ : FrameStream)
      = (n.having (n.federate.plan.dispatch (.federate peer) n.federate.clock.now
            f n.federate.inbox).2 (n.federate.clock.readCount + 1)).readPeer peer
        (⟨frames, ending⟩ : FrameStream) := by
  have hdispatch := dispatch_of_idle h (.federate peer) f
  have hok :=
    Plan.dispatch_of_accepts
      (.federate peer) n.federate.clock.now n.federate.inbox haccepts
  have hresult := congrArg Prod.fst hok
  dsimp only at hdispatch hresult
  rw [hresult] at hdispatch
  rw [readPeer]
  split
  · next h => cases h
  · next h =>
    cases h
    rw [hdispatch]

/-- What a peer sends is taken in, frame by frame. What else comes of it does
not depend on what has come before. -/
theorem readPeer_having (peer : FederateId) (source : FrameStream) (n : Node μ)
    (h : n.federate.awaits = []) (inbox : Inbox) (readCount : Nat) :
    ∃ arrivals : List Incoming,
      (∀ arrival ∈ arrivals, arrival.source ≠ .coordinator) ∧
      ∃ faults readCount' inbox' readCount'',
        n.readPeer peer source = { n.having
          (inTurn n.federate.plan.dispatchIncoming arrivals n.federate.inbox).2
            readCount' with faults } ∧
        (n.having inbox readCount).readPeer peer source
          = { n.having inbox' readCount'' with faults } := by
  obtain ⟨frames, ending⟩ := source
  -- whether a frame is refused depends on the plan alone, so both readers stop
  -- at the same frame
  induction frames generalizing n inbox readCount with
  | nil =>
    refine ⟨[], by simp, _, n.federate.clock.readCount, inbox, readCount,
      readPeer_nil, ?_⟩
    exact readPeer_nil (n := n.having inbox readCount)
  | cons f frames ih =>
    by_cases hf : ∃ detail, n.federate.plan.Refuses f detail
    · obtain ⟨detail, hrefuses⟩ := hf
      refine ⟨[], by simp, _, n.federate.clock.readCount + 1, inbox, readCount + 1,
        readPeer_of_refuses h hrefuses, ?_⟩
      exact readPeer_of_refuses (n := n.having inbox readCount) h hrefuses
    · have haccepts := not_exists.mp hf
      rw [readPeer_of_accepts h haccepts,
        readPeer_of_accepts (n := n.having inbox readCount) h haccepts]
      obtain ⟨arrivals, hpeers, faults, readCount', inbox', readCount'', hread,
          hread'⟩ := ih
        (n.having (n.federate.plan.dispatch (.federate peer) n.federate.clock.now
          f n.federate.inbox).2 (n.federate.clock.readCount + 1)) h _ _
      refine ⟨⟨.federate peer, n.federate.clock.now, f⟩ :: arrivals, ?_, faults,
        readCount', inbox', readCount'', hread, hread'⟩
      exact List.forall_mem_cons.mpr ⟨by simp, hpeers⟩

end Node

/-! ### Peers -/

/-- Two dialogues over the same link. -/
def OverSameLink {σ : Type} (d d' : Dialogue σ) : Prop := d'.link = d.link

section OverSameLink

variable {σ : Type} [Link σ]

theorem alike_receive_link (peer : String) :
    Alike OverSameLink (Conversation.receive (σ := σ) peer)
      (Conversation.receive peer) OverSameLink := by
  intro d d' h
  simp only [Conversation.receive, show d'.link = d.link from h]
  exact ⟨trivial, rfl⟩

theorem alike_send_link (peer : String) (f : Frame) :
    Alike OverSameLink (Conversation.send (σ := σ) peer f)
      (Conversation.send peer f) OverSameLink := by
  intro d d' h
  simp only [Conversation.send, show d'.link = d.link from h]
  exact ⟨trivial, rfl⟩

theorem alike_trySend_link (f : Frame) :
    Alike OverSameLink (Conversation.trySend (σ := σ) f)
      (Conversation.trySend f) OverSameLink := by
  intro d d' h
  simp only [Conversation.trySend, show d'.link = d.link from h]
  exact ⟨trivial, rfl⟩

/-- What peers say to one another has nothing to do with the clock. -/
theorem alike_introduce (federate : FederateId) (federationId : String)
    (peer : FederateId) :
    Alike OverSameLink (introduce (σ := σ) federate federationId peer)
      (introduce federate federationId peer) OverSameLink := by
  refine (alike_send_link _ _).bind (fun _ => ?_) fun _ _ => id
  refine Alike.bind (alike_receive_link _) (fun frame => ?_) fun _ _ => id
  split
  · exact alike_pure fun _ _ => id
  · exact alike_throw fun _ _ => id
  · exact alike_throw fun _ _ => id

theorem alike_hear (a : Admission) (registered : FederateId → Bool) :
    Alike OverSameLink (a.hear registered : Conversation σ FederateId)
      (a.hear registered) OverSameLink := by
  refine Alike.bind (alike_receive_link _) (fun frame => ?_) fun _ _ => id
  split
  · split
    · exact (alike_trySend_link _).bind (fun _ => alike_throw fun _ _ => id)
        fun _ _ => id
    · exact (alike_send_link _ _).bind (fun _ => alike_pure fun _ _ => id)
        fun _ _ => id
  · exact (alike_trySend_link _).bind (fun _ => alike_throw fun _ _ => id)
      fun _ _ => id

end OverSameLink

namespace Session

/-- A peer that comes is accepted or refused whatever has come before. -/
theorem accept_having (arrival : Socket FrameStream) (s : Session μ)
    (h : s.federate.awaits = []) (inbox : Inbox) (readCount : Nat) :
    ∃ arrivals : List Incoming,
      (∀ arrival ∈ arrivals, arrival.source ≠ .coordinator) ∧
      ∃ t : Session μ, ∃ readCount' inbox' readCount'',
        t.federate = s.federate ∧ s.accept arrival = t.having
          (inTurn s.federate.plan.dispatchIncoming arrivals s.federate.inbox).2
          readCount' ∧
        (s.having inbox readCount).accept arrival
          = t.having inbox' readCount'' := by
  -- what is heard of the peer decides all that follows, and it is the same for
  -- both sessions
  let d (clock : Clock) : Dialogue (Socket FrameStream) :=
    { link := arrival, clock }
  obtain ⟨hresult, hlink⟩ : (s.heard arrival).1
      = ((s.having inbox readCount).heard arrival).1 ∧
      ((s.having inbox readCount).heard arrival).2.link
        = (s.heard arrival).2.link :=
    alike_hear s.admission s.node.transport.hasInbound (d s.federate.clock)
      (d (s.having inbox readCount).federate.clock) rfl
  rw [accept_eq, accept_eq, ← hresult, hlink]
  generalize (s.heard arrival).2.link = link
  rcases (s.heard arrival).1 with e | peer
  · exact ⟨[], by simp, s, s.federate.clock.readCount, inbox, readCount,
      rfl, rfl, rfl⟩
  · let e : Endpoint := { peer := .federate peer, wire := link.wire }
    let joined := s.withTransport fun t => (t.addInbound peer e).2
    obtain ⟨arrivals, hpeers, faults, readCount', inbox', readCount'', hread,
        hread'⟩ :=
      joined.node.readPeer_having peer link.source h inbox readCount
    refine ⟨arrivals, hpeers, { joined with node := { joined.node with faults } },
      readCount', inbox', readCount'', rfl, ?_, ?_⟩
    · exact congrArg (fun node => ({ joined with node } : Session μ)) hread
    · exact congrArg (fun node => ({ joined with node } : Session μ)) hread'

end Session

/-! ### A start with data and one without -/

namespace Startup

/-- The conversation with the coordinator that a start is about to hold. -/
def dialogue (r : Startup μ) : Dialogue (Socket FrameStream) where
  link := r.link.socket
  clock := r.session.federate.clock
  inbox := r.session.federate.inbox
  pauses := r.pauses

/-- The start after a conversation with the coordinator. -/
def resume (r : Startup μ) (d : Dialogue (Socket FrameStream)) : Startup μ where
  session := (r.session.withFederate fun f =>
    { f with clock := d.clock, inbox := d.inbox }).withTransport (share d.link.wire)
  link := { r.link with socket := d.link }
  pauses := d.pauses

theorem converse_of_idle {α : Type} {r : Startup μ}
    (h : r.session.federate.awaits = [])
    (c : Conversation (Socket FrameStream) α) :
    converse c r = ((c r.dialogue).1, r.resume (c r.dialogue).2) := by
  let d := (c r.dialogue).2
  have hadopt : adopt d r.session.federate
      = { r.session.federate with clock := d.clock, inbox := d.inbox } :=
        Federate.wake_of_idle h
  have hconverse : converse c r = ((c r.dialogue).1, { r.resume d with
      session := (r.session.withFederate (adopt d)).withTransport
        (share d.link.wire) }) := rfl
  have hsession : r.session.withFederate (adopt d)
      = r.session.withFederate fun f =>
        { f with clock := d.clock, inbox := d.inbox } :=
    congrArg
      (fun federate => { r.session with node := { r.session.node with federate } })
      hadopt
  rw [hconverse, hsession]
  rfl

/-- The same start, with some frames still to come from the coordinator. -/
def leave (frames : List Frame) (r : Startup μ) : Startup μ :=
  { r with link := { r.link with socket := (r.dialogue.leave frames).link } }

theorem converse_leave {α : Type} {r : Startup μ}
    (h : r.session.federate.awaits = [])
    (c : Conversation (Socket FrameStream) α) (frames : List Frame) :
    converse c (r.leave frames)
      = ((c (r.dialogue.leave frames)).1,
        r.resume (c (r.dialogue.leave frames)).2) :=
  converse_of_idle (r := r.leave frames) h c

/-- The same start without the data that is to come, and with other things that
have come. -/
def quiet (inbox : Inbox) (readCount : Nat) (r : Startup μ) : Startup μ :=
  { r with session := r.session.having inbox readCount, link := r.link.quiet }

/-- Two starts, with data from the coordinator and without, that differ in
nothing but what has come, in how often the clock was read, and in the data that
is still to come. -/
structure InStep (plan : Plan) (before : Inbox) (data : List Frame)
    (r r' : Startup μ) : Prop where
  same : ∃ inbox readCount, r' = r.quiet inbox readCount
  idle : r.session.federate.awaits = []
  planned : r.session.federate.plan = plan
  accepted : ∀ f ∈ r.link.socket.source.frames,
    f.isRelayed = true → ∀ detail, ¬ plan.Refuses f detail
  accounted : Accounted plan before data r.session.federate.inbox
    r.link.socket.source.frames

end Startup

namespace Session

section InStep

variable {plan : Plan} {before : Inbox} {data : List Frame} {α : Type}
  {net : Network}

theorem alike_converse_inStep {c c' : Conversation (Socket FrameStream) α}
    (h : Alike (InStep plan before data) c c' (InStep plan before data)) :
    Alike (Startup.InStep plan before data) (converse c : Start μ α) (converse c')
      (Startup.InStep plan before data) := by
  rintro r _ ⟨⟨inbox, readCount, rfl⟩, hidle, hplan, haccepted, haccounted⟩
  have hidle' : (r.quiet inbox readCount).session.federate.awaits = [] := hidle
  obtain ⟨hresult, hlink, hpauses, hoffset, hreadings, haccepted, haccounted⟩ :=
    h r.dialogue (r.quiet inbox readCount).dialogue
      ⟨rfl, rfl, rfl, rfl, haccepted, haccounted⟩
  rw [Startup.converse_of_idle hidle, Startup.converse_of_idle hidle']
  -- of the two dialogues nothing is left but how they differ
  generalize c r.dialogue = x at *
  generalize c' (r.quiet inbox readCount).dialogue = y at *
  obtain ⟨result, d⟩ := x
  obtain ⟨result', ⟨link, ⟨offset, readings, count⟩, box, pauses⟩⟩ := y
  dsimp only at *
  subst hlink hpauses hoffset hreadings
  exact ⟨hresult, ⟨box, count, rfl⟩, hidle, hplan, haccepted, haccounted⟩

/-- A change of the session that has nothing to do with the federate. -/
theorem alike_change_inStep {f : Session μ → Session μ}
    (hfederate : ∀ s, (f s).federate = s.federate) (hhaving : ∀ inbox readCount s,
      f (s.having inbox readCount) = (f s).having inbox readCount) :
    Alike (Startup.InStep plan before data) (change f) (change f)
      (Startup.InStep plan before data) := by
  refine alike_change ?_
  rintro r _ ⟨⟨inbox, readCount, rfl⟩, hidle, hplan, haccepted, haccounted⟩
  refine ⟨⟨inbox, readCount, ?_⟩, ?_, ?_, haccepted, ?_⟩
  · exact congrArg
      (fun session => ({ r with session, link := r.link.quiet } : Startup μ))
      (hhaving inbox readCount r.session)
  all_goals
    dsimp only
    rw [hfederate]
    assumption

theorem alike_registerCoordinator_inStep :
    Alike (Startup.InStep plan before data)
      (registerCoordinator net : Start μ Unit) (registerCoordinator net)
      (Startup.InStep plan before data) := by
  refine alike_registerCoordinator net ?_ fun e =>
    alike_change_inStep (fun _ => rfl) fun _ _ _ => rfl
  rintro r _ ⟨⟨inbox, readCount, rfl⟩, -, -, -, -⟩
  rfl

theorem alike_listenIfExpected_inStep :
    Alike (Startup.InStep plan before data) (listenIfExpected net : Start μ Unit)
      (listenIfExpected net) (Startup.InStep plan before data) := by
  refine alike_listenIfExpected net ?_ ?_ (fun port => ?_) fun port =>
    alike_converse_inStep (alike_send _ _)
  · rintro r _ ⟨⟨inbox, readCount, rfl⟩, -, -, -, -⟩
    rfl
  · rintro r _ ⟨⟨inbox, readCount, rfl⟩, -, -, -, -⟩
    rfl
  · exact alike_change_inStep (fun _ => rfl) fun _ _ _ => rfl

theorem alike_peerAddress_inStep (peer : FederateId) :
    Alike (Startup.InStep plan before data)
      (peerAddress net peer : Start μ ServerAddress) (peerAddress net peer)
      (Startup.InStep plan before data) := by
  refine alike_ask ?_
  rintro r _ ⟨⟨inbox, readCount, rfl⟩, -, rfl, -, -⟩
  have hconfig :
      (id (r.quiet inbox readCount).session).config = (id r.session).config :=
    rfl
  rw [hconfig]
  split
  · split
    · exact alike_pure fun _ _ => id
    · exact alike_throw fun _ _ => id
  · refine alike_get ?_
    rintro q _ ⟨⟨inbox', readCount', rfl⟩, -, -, -, -⟩
    exact alike_converse_inStep (alike_queryAddress _ _ _)

theorem alike_linkPeer_inStep (peer : FederateId) :
    Alike (Startup.InStep plan before data) (linkPeer net peer : Start μ Unit)
      (linkPeer net peer) (Startup.InStep plan before data) := by
  refine (alike_peerAddress_inStep peer).bind (fun address => ?_) fun _ _ => id
  refine alike_ask ?_
  rintro r _ ⟨⟨inbox, readCount, rfl⟩, -, -, -, -⟩
  refine (alike_lift _).bind (fun socket => ?_) fun _ _ => id
  let d (clock : Clock) : Dialogue (Socket FrameStream) := { link := socket, clock }
  obtain ⟨hresult, hlink⟩ :=
    alike_introduce r.session.config.federate r.session.config.federationId peer
      (d r.session.federate.clock)
      (d (r.quiet inbox readCount).session.federate.clock) rfl
  let register (result : Except Fault Unit) (link : Socket FrameStream) :
      Start μ Unit := do
    let () ← result
    failOn (net.missing (.peerHandle peer)) fun e =>
      .connectionLost peer.render e.text
    registerPeer peer link.wire
  let said (clock : Clock) :=
    introduce r.session.config.federate r.session.config.federationId peer
      (d clock)
  show Alike _
    (register (said r.session.federate.clock).1
      (said r.session.federate.clock).2.link)
    (register (said (r.quiet inbox readCount).session.federate.clock).1
      (said (r.quiet inbox readCount).session.federate.clock).2.link) _
  rw [show (said _).1 = (said _).1 from hresult,
    show (said _).2.link = (said _).2.link from hlink]
  refine (alike_lift _).bind (fun _ => ?_) fun _ _ => id
  refine (alike_failOn _ _).bind (fun _ => ?_) fun _ _ => id
  exact alike_change_inStep (fun _ => rfl) fun _ _ _ => rfl

theorem alike_linkPeers_inStep :
    Alike (Startup.InStep plan before data) (linkPeers net : Start μ Unit)
      (linkPeers net) (Startup.InStep plan before data) := by
  rw [linkPeers_eq]
  refine alike_ask ?_
  rintro r _ ⟨⟨inbox, readCount, rfl⟩, -, -, -, -⟩
  refine alike_forM (fun peer => ?_) _
  rw [linkPeerOrPass_eq]
  refine alike_ask ?_
  rintro r _ ⟨⟨inbox, readCount, rfl⟩, -, -, -, -⟩
  have hconfig : (r.quiet inbox readCount).session.config = r.session.config := rfl
  rw [hconfig]
  cases r.session.config.peers.unreachable with
  | strict => exact alike_linkPeer_inStep peer
  | bestEffort =>
    exact (alike_linkPeer_inStep peer).tryCatch fun _ => alike_pure fun _ _ => id

theorem inStep_accept {r r' : Startup μ} (arrival : Socket FrameStream)
    (h : Startup.InStep plan before data r r') : Startup.InStep plan before data
      { r with session := r.session.accept arrival }
      { r' with session := r'.session.accept arrival } := by
  obtain ⟨⟨inbox, readCount, rfl⟩, hidle, rfl, haccepted, haccounted⟩ := h
  obtain ⟨arrivals, hpeers, s, readCount', inbox', readCount'', hfederate,
      haccept, haccept'⟩ :=
    accept_having arrival r.session hidle inbox readCount
  have hsession : (r.quiet inbox readCount).session.accept arrival
      = s.having inbox' readCount'' := haccept'
  rw [haccept, hsession]
  refine ⟨⟨inbox', readCount'', rfl⟩, ?_, ?_, haccepted, haccounted.peers hpeers⟩
  · exact (congrArg Federate.awaits hfederate).trans hidle
  · exact (congrArg Federate.plan hfederate : s.federate.plan = _)

theorem inStep_foldl_accept {r r' : Startup μ}
    (arrivals : List (Socket FrameStream))
    (h : Startup.InStep plan before data r r') :
    Startup.InStep plan before data
      { r with session := arrivals.foldl (·.accept ·) r.session }
      { r' with session := arrivals.foldl (·.accept ·) r'.session } := by
  induction arrivals generalizing r r' with
  | nil => exact h
  | cons arrival arrivals ih => exact ih (inStep_accept arrival h)

theorem alike_awaitPeers_inStep :
    Alike (Startup.InStep plan before data) (awaitPeers net : Start μ Unit)
      (awaitPeers net) (Startup.InStep plan before data) := by
  refine Alike.bind (alike_change fun r r' h => inStep_foldl_accept net.arrivals h)
    (fun _ => ?_) fun _ _ => id
  refine alike_ask ?_
  rintro r _ ⟨⟨inbox, readCount, rfl⟩, -, -, -, -⟩
  show Alike _ (if r.session.hasAllPeers = false ∧
        r.session.config.peers.unreachable = .strict then _ else _)
      (if r.session.hasAllPeers = false ∧
        r.session.config.peers.unreachable = .strict then _ else _) _
  split
  · exact alike_throw fun _ _ => id
  · exact alike_pure fun _ _ => id

theorem alike_keepSynchronized_inStep :
    Alike (Startup.InStep plan before data) (keepSynchronized net : Start μ Unit)
      (keepSynchronized net) (Startup.InStep plan before data) := by
  refine alike_keepSynchronized net ?_ ?_
  all_goals
    rintro r _ ⟨⟨inbox, readCount, rfl⟩, -, -, -, -⟩
    rfl

theorem alike_proceed_inStep :
    Alike (Startup.InStep plan before data) (proceed net : Start μ Unit)
      (proceed net) (Startup.InStep plan before data) := by
  rw [proceed_eq]
  refine alike_listenIfExpected_inStep.bind (fun _ => ?_) fun _ _ => id
  refine alike_linkPeers_inStep.bind (fun _ => ?_) fun _ _ => id
  refine (alike_failOn _ _).bind (fun _ => ?_) fun _ _ => id
  refine alike_awaitPeers_inStep.bind (fun _ => ?_) fun _ _ => id
  refine alike_keepSynchronized_inStep.bind (fun _ => ?_) fun _ _ => id
  exact alike_change_inStep (fun _ => rfl) fun _ _ _ => rfl

end InStep

end Session

end Federation
