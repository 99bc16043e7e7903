/-
Federation/Proofs/BestEffort.lean

What best effort does without.

With best effort a federate does without the peers that it cannot link to. A
link may fail for more reasons than an unreachable peer: the coordinator is
asked where the peer listens, and it may answer amiss or go away, and an address
in the settings may stand for nothing. Best effort does not tell these apart.
Whatever the links to peers come to, each with whatever fault, they are passed
(`linkPeers_of_bestEffort`), and those that succeeded are registered
(`reaches_linkAll`). What follows them depends on none of it, so the start ends
as it would without any peers to link to (`best_effort_start`): by induction
over the peers for the links, and for the start by going through it side by side
with the start that has none.
-/
import Mathlib
import Federation.Proofs.Outline

namespace Federation

variable {μ : Type}

open Procedure Start

/-! ### The links to peers -/

/-- Links to some peers have been registered, and nothing else has changed. -/
structure Outline.Reaches (peers : List FederateId) (o o' : Outline) : Prop where
  config : o'.config = o.config
  topology : o'.topology = o.topology
  history : o'.history = o.history
  serverPort : o'.serverPort = o.serverPort
  coordinator : o'.links.coordinator = o.links.coordinator
  inbound : o'.links.inbound = o.links.inbound
  outbound : ∀ peer,
    o'.links.outbound peer = true ↔ o.links.outbound peer = true ∨ peer ∈ peers

theorem Outline.Reaches.of_eq {o o' : Outline} (h : o' = o) : o.Reaches [] o' := by
  subst h
  exact ⟨rfl, rfl, rfl, rfl, rfl, rfl, fun peer => by simp⟩

theorem Outline.Reaches.trans {o o' o'' : Outline}
    {peers peers' : List FederateId} (h : Reaches peers o o')
    (h' : Reaches peers' o' o'') : Reaches (peers ++ peers') o o'' where
  config := h'.config.trans h.config
  topology := h'.topology.trans h.topology
  history := h'.history.trans h.history
  serverPort := h'.serverPort.trans h.serverPort
  coordinator := h'.coordinator.trans h.coordinator
  inbound := h'.inbound.trans h.inbound
  outbound peer := by rw [h'.outbound, h.outbound, List.mem_append, or_assoc]

namespace Session

variable {net : Network}

/-- What the links to some peers come to, opened one after another, each where
the one before it ended. -/
def linkAll (net : Network) (peers : List FederateId) (r : Startup μ) :
    List (Except Fault Unit) × Startup μ :=
  inTurn (fun peer r => linkPeer net peer r) peers r

/-- The peers that were linked to. -/
def linked (peers : List FederateId) (results : List (Except Fault Unit)) :
    List FederateId :=
  ((peers.zip results).filter (·.2.isOk)).map (·.1)

theorem linkPeer_cases (net : Network) (peer : FederateId) (r : Startup μ) :
    r.session.outline.Reaches (linked [peer] [(linkPeer net peer r).1])
      (linkPeer net peer r).2.session.outline ∧
      (linkPeer net peer r).2.link.isSameHost = r.link.isSameHost := by
  let P (r' : Startup μ) : Prop :=
    r'.session.outline = r.session.outline ∧ r'.link.isSameHost = r.link.isSameHost
  let Q (r' : Startup μ) : Prop :=
    r.session.outline.Reaches [peer] r'.session.outline ∧
      r'.link.isSameHost = r.link.isSameHost
  have hlasting : Lasting P :=
    fun α c r' h => ⟨(outline_converse c r').trans h.1, h.2⟩
  have hlinked : Leads P (linkPeer net peer) (fun _ => Q) P := by
    refine leads_linkPeer peer hlasting fun r' wire h => ⟨?_, h.2⟩
    rw [← h.1]
    refine ⟨rfl, rfl, rfl, rfl, rfl, rfl, fun other => ?_⟩
    rw [List.mem_singleton, or_comm]
    exact Transport.hasOutbound_addOutbound_iff
  have hlink := hlinked r ⟨rfl, rfl⟩
  rcases h : linkPeer net peer r with ⟨e | ⟨⟩, r'⟩
  · rw [h] at hlink
    exact ⟨.of_eq hlink.1, hlink.2⟩
  · rw [h] at hlink
    exact hlink

theorem reaches_linkAll (net : Network) (peers : List FederateId) (r : Startup μ) :
    r.session.outline.Reaches (linked peers (linkAll net peers r).1)
      (linkAll net peers r).2.session.outline ∧
      (linkAll net peers r).2.link.isSameHost = r.link.isSameHost := by
  induction peers generalizing r with
  | nil => exact ⟨.of_eq rfl, rfl⟩
  | cons peer peers ih =>
    obtain ⟨hfirst, hhost⟩ := linkPeer_cases net peer r
    obtain ⟨hrest, hhost'⟩ := ih (linkPeer net peer r).2
    refine ⟨?_, hhost'.trans hhost⟩
    have hlinked (result : Except Fault Unit) (results : List (Except Fault Unit)) :
        linked (peer :: peers) (result :: results) = linked [peer] [result] ++
          linked peers results := by
      cases result <;> rfl
    have hall := hfirst.trans hrest
    rwa [← hlinked] at hall

/-- With best effort the links to peers are passed, whatever they come to. -/
theorem forM_linkPeerOrPass {r : Startup μ}
    (hpolicy : r.session.config.peers.unreachable = .bestEffort)
    (peers : List FederateId) :
    peers.forM (linkPeerOrPass net) r = (.ok (), (linkAll net peers r).2) := by
  induction peers generalizing r with
  | nil => rfl
  | cons peer peers ih =>
    have hpass : linkPeerOrPass net peer r = (.ok (), (linkPeer net peer r).2) := by
      have hask : ask (·.config.peers.unreachable) r = (.ok .bestEffort, r) := by
        rw [ask, hpolicy]
      rw [linkPeerOrPass_eq, bind_of_ok hask]
      show tryCatch (linkPeer net peer) (fun _ => pure ()) r = _
      rw [tryCatch_apply]
      rcases linkPeer net peer r with ⟨e | ⟨⟩, r'⟩ <;> rfl
    have hkept : (linkPeer net peer r).2.session.config.peers.unreachable
        = .bestEffort := by
      rw [← hpolicy]
      exact congrArg (·.peers.unreachable) (linkPeer_cases net peer r).1.config
    show (linkPeerOrPass net peer >>= fun _ => peers.forM (linkPeerOrPass net)) r
        = _
    rw [bind_of_ok hpass, ih hkept]
    rfl

theorem linkPeers_of_bestEffort {r : Startup μ}
    (hpolicy : r.session.config.peers.unreachable = .bestEffort) :
    linkPeers net r
      = (.ok (), (linkAll net r.session.topology.outbound.toList r).2) :=
  forM_linkPeerOrPass hpolicy _

/-! ### A start without peers to link to -/

/-- The session with no peers to link to. -/
def alone (s : Session μ) : Session μ :=
  { s with topology := { s.topology with outbound := ∅ } }

/-- The same start, of the session with best effort and of the one with no peers
to link to. -/
def Alone (r r' : Startup μ) : Prop :=
  r.session.config.peers.unreachable = .bestEffort ∧
    r' = { r with session := r.session.alone }

/-- Two starts with best effort that have the same ahead of them, as far as it
may fail. -/
structure Abreast (r r' : Startup μ) : Prop where
  policy : r.session.config.peers.unreachable = .bestEffort
  config : r'.session.config = r.session.config
  history : r'.session.history = r.session.history
  serverPort : r'.session.serverPort = r.session.serverPort
  sameHost : r'.link.isSameHost = r.link.isSameHost

theorem Alone.abreast {r r' : Startup μ} (h : Alone r r') : Abreast r r' := by
  obtain ⟨hpolicy, rfl⟩ := h
  exact ⟨hpolicy, rfl, rfl, rfl, rfl⟩

variable (net)

theorem alike_converse_alone {α : Type} (c : Conversation (Socket FrameStream) α) :
    Alike Alone (converse c : Start μ α) (converse c) Alone := by
  rintro r _ ⟨hpolicy, rfl⟩
  exact ⟨rfl, hpolicy, rfl⟩

theorem alike_synchronize_alone :
    Alike Alone (synchronize : Start μ Unit) synchronize Alone := by
  refine alike_ask ?_
  rintro r _ ⟨-, rfl⟩
  refine alike_get ?_
  rintro q _ ⟨-, rfl⟩
  exact (alike_converse_alone _).bind (fun _ => alike_pure fun _ _ => id)
    fun _ _ => id

theorem alike_change_alone {f : Session μ → Session μ}
    (hconfig : ∀ s, (f s).config = s.config)
    (halone : ∀ s, f s.alone = (f s).alone) :
    Alike Alone (change f) (change f) Alone := by
  refine alike_change ?_
  rintro r _ ⟨hpolicy, rfl⟩
  refine ⟨?_, congrArg (fun session => { r with session }) (halone r.session)⟩
  rw [← hpolicy]
  exact congrArg (·.peers.unreachable) (hconfig r.session)

theorem alike_joinCoordinator_alone :
    Alike Alone (joinCoordinator net : Start μ Unit)
      (joinCoordinator net) Alone := by
  refine alike_ask ?_
  rintro r _ ⟨-, rfl⟩
  refine (alike_converse_alone _).bind (fun _ => ?_) fun _ _ => id
  refine Alike.bind (alike_change_alone ?_ ?_) (fun _ => ?_) fun _ _ => id
  · exact fun _ => rfl
  · exact fun _ => rfl
  refine alike_synchronize_alone.bind (fun _ => ?_) fun _ _ => id
  refine alike_registerCoordinator net ?_ fun e =>
    alike_change_alone (fun _ => rfl) fun _ => rfl
  rintro r _ ⟨-, rfl⟩
  rfl

theorem alike_listenIfExpected_alone :
    Alike Alone (listenIfExpected net : Start μ Unit)
      (listenIfExpected net) Alone := by
  refine alike_listenIfExpected net ?_ ?_ (fun port => ?_) fun port =>
    alike_converse_alone _
  · rintro r _ ⟨-, rfl⟩
    rfl
  · rintro r _ ⟨-, rfl⟩
    rfl
  · exact alike_change_alone (fun _ => rfl) fun _ => rfl

/-- The links to peers make no difference. -/
theorem alike_linkPeers_alone :
    Alike Alone (linkPeers net : Start μ Unit) (linkPeers net) Abreast := by
  rintro r _ ⟨hpolicy, rfl⟩
  let r' : Startup μ := { r with session := r.session.alone }
  have hnone : linkPeers net r' = (.ok (), r') := by
    have hpolicy' : r'.session.config.peers.unreachable = .bestEffort := hpolicy
    rw [linkPeers_of_bestEffort hpolicy']
    rfl
  obtain ⟨hreaches, hhost⟩ :=
    reaches_linkAll net r.session.topology.outbound.toList r
  rw [linkPeers_of_bestEffort hpolicy, hnone]
  refine ⟨rfl, ?_, hreaches.config.symm, hreaches.history.symm,
    hreaches.serverPort.symm, hhost.symm⟩
  rw [← hpolicy]
  exact congrArg (·.peers.unreachable) hreaches.config

/-- With best effort nobody waits in vain for the peers that are to come. -/
theorem alike_awaitPeers_abreast :
    Alike Abreast (awaitPeers net : Start μ Unit) (awaitPeers net) Abreast := by
  refine Alike.bind (alike_change ?_) (fun _ => ?_) fun _ _ => id
  · intro r r' h
    have hgathers := gathers_foldl_accept net.arrivals r.session
    have hgathers' := gathers_foldl_accept net.arrivals r'.session
    refine ⟨?_, ?_, ?_, ?_, h.sameHost⟩
    · rw [← h.policy]
      exact congrArg (·.peers.unreachable) hgathers.config
    · exact hgathers'.config.trans (h.config.trans hgathers.config.symm)
    · exact hgathers'.history.trans (h.history.trans hgathers.history.symm)
    · exact hgathers'.serverPort.trans (h.serverPort.trans hgathers.serverPort.symm)
  · refine alike_ask fun r r' h => ?_
    have hpatient (s : Session μ) (hs : s.config.peers.unreachable = .bestEffort) :
        ¬ (s.hasAllPeers = false ∧ s.config.peers.unreachable = .strict) := by
      rintro ⟨-, hstrict⟩
      cases hs.symm.trans hstrict
    have hpolicy' : r'.session.config.peers.unreachable = .bestEffort := by
      rw [h.config, h.policy]
    rw [id, id, if_neg (hpatient _ h.policy), if_neg (hpatient _ hpolicy')]
    exact alike_pure fun _ _ => id

theorem alike_startOver_alone :
    Alike Alone (startOver net : Start μ Unit) (startOver net) Abreast := by
  have habreast (r r' : Startup μ) : Alone r r' → Abreast r r' := Alone.abreast
  rw [startOver_eq, proceed_eq]
  refine (alike_joinCoordinator_alone net).bind (fun _ => ?_) habreast
  refine (alike_listenIfExpected_alone net).bind (fun _ => ?_) habreast
  refine (alike_linkPeers_alone net).bind (fun _ => ?_) fun _ _ => id
  refine (alike_failOn _ _).bind (fun _ => ?_) fun _ _ => id
  refine (alike_awaitPeers_abreast net).bind (fun _ => ?_) fun _ _ => id
  refine (alike_keepSynchronized net (fun _ _ h => h.config) fun _ _ h =>
    h.sameHost).bind (fun _ => ?_) fun _ _ => id
  refine alike_change fun r r' h =>
    ⟨h.policy, h.config, ?_, h.serverPort, h.sameHost⟩
  exact congrArg (List.cons _) h.history

theorem applySkew_alone (s : Session μ) :
    s.alone.applySkew = s.applySkew.alone := by
  have hconfig : s.alone.config = s.config := rfl
  unfold applySkew
  rw [hconfig]
  cases s.config.clockSync.testOffset <;> rfl

theorem start_alone {s : Session μ}
    (hpolicy : s.config.peers.unreachable = .bestEffort) :
    (s.start net).1.map (fun _ => ()) = (s.alone.start net).1.map (fun _ => ()) ∧
      (s.start net).2.history = (s.alone.start net).2.history ∧
      (s.start net).2.serverPort = (s.alone.start net).2.serverPort := by
  by_cases hstate : s.state = .disconnected
  · have hstate' : s.alone.state = .disconnected := hstate
    have hdepart : s.alone.depart = s.depart.alone := by
      rw [depart, applySkew_alone]
      rfl
    have hpolicy' : s.depart.config.peers.unreachable = .bestEffort := by
      rw [← hpolicy]
      exact congrArg (·.config.peers.unreachable) (outline_applySkew s)
    -- both depart alike, so they open the same link or fail alike
    cases hopen : s.depart.openCoordinator net with
    | error e =>
      have hopen' : s.alone.depart.openCoordinator net = .error e := by
        rwa [hdepart]
      rw [start_of_error hstate hopen, start_of_error hstate' hopen', hdepart]
      exact ⟨rfl, rfl, rfl⟩
    | ok link =>
      have hopen' : s.alone.depart.openCoordinator net = .ok link := by
        rwa [hdepart]
      rw [start_of_ok hstate hopen, start_of_ok hstate' hopen', hdepart]
      obtain ⟨hresult, habreast⟩ :=
        alike_startOver_alone net { session := s.depart, link }
        { session := s.depart.alone, link } ⟨hpolicy', rfl⟩
      refine ⟨?_, habreast.history.symm, habreast.serverPort.symm⟩
      dsimp only
      rw [← hresult]
      cases (startOver net { session := s.depart, link }).1 <;> rfl
  · rw [start_of_ne hstate, start_of_ne (s := s.alone) hstate]
    exact ⟨rfl, rfl, rfl⟩

/-- **What best effort does without.** With best effort the links to peers are
opened one after another, each where the one before it ended, and whatever they
come to, with whatever fault, the start goes on; those are registered whose links
succeeded, and nothing else of the outline changes. In any network, from any
state, such a session starts with the same result as it would with no peers to
link to, goes through the same states and listens at the same port. -/
theorem best_effort_start (net : Network) {s : Session μ}
    (hpolicy : s.config.peers.unreachable = .bestEffort) :
    (∀ r : Startup μ, r.session.config.peers.unreachable = .bestEffort →
      let peers := r.session.topology.outbound.toList
      let links := linkAll net peers r
      linkPeers net r = (.ok (), links.2) ∧
        r.session.outline.Reaches (linked peers links.1) links.2.session.outline) ∧
    (s.start net).1.map (fun _ => ()) = (s.alone.start net).1.map (fun _ => ()) ∧
    (s.start net).2.history = (s.alone.start net).2.history ∧
    (s.start net).2.serverPort = (s.alone.start net).2.serverPort :=
  ⟨fun r h => ⟨linkPeers_of_bestEffort h, (reaches_linkAll net _ r).1⟩,
    start_alone net hpolicy⟩

/-- The session with best effort of a federate without connections that links to
one peer, whose address is set or not. -/
def pairSession (address : Option String) : Except Fault (Session Empty) := do
  let plan ← (Plan.build ⟨2⟩ [] .centralized fun _ => .zero).mapError fun e =>
      .config e.message
  let config : Config := { federate := ⟨2⟩, federationId := "fed" }
  let peers : PeerSettings :=
    { outbound := [⟨⟨1⟩, address⟩], unreachable := .bestEffort }
  Session.new { config with peers } plan ⟨⟨.epoch, 0⟩, ∅⟩
    { readings := fun _ => .epoch } {}

theorem best_effort_start_of_pair :
    ∃ s, pairSession none = .ok s ∧
      (s.start (.scripted ⟨[.ack, .ack], .io .starved⟩)).1.map (fun _ => ())
        = .ok () := by
  obtain ⟨s, hs⟩ : ∃ s, pairSession none = .ok s := ⟨_, rfl⟩
  have hpolicy : s.config.peers.unreachable = .bestEffort := by
    cases hs
    rfl
  obtain ⟨-, hresult, -⟩ :=
    best_effort_start (.scripted ⟨[.ack, .ack], .io .starved⟩) hpolicy
  refine ⟨s, hs, hresult.trans ?_⟩
  cases hs
  decide +kernel

/-- What the link to the peer comes to where the coordinator follows a script,
and the state in which the start ends. -/
def pairOutcome (address : Option String) (script : FrameStream) :
    Except Fault (Except Fault Unit × SessionState) := do
  let net := Network.scripted script
  let s ← pairSession address
  let link ← s.depart.openCoordinator net
  let joined := (joinCoordinator net { session := s.depart, link }).2
  return ((linkPeer net ⟨1⟩ joined).1, (s.start net).2.state)

/-- It is not only unreachable peers that best effort does without: the session
runs though the coordinator answered amiss, though the coordinator went away,
and though the address that is set stands for nothing. -/
theorem best_effort_passes_all_faults :
    pairOutcome none ⟨[.ack, .ack], .io .starved⟩
      = .ok
        (.error (.protocol "coordinator" "expected AddressQueryReply, got Ack"),
          .running) ∧
    pairOutcome none ⟨[.ack], .io .endOfInput⟩
      = .ok (.error (.connectionLost "coordinator"
        (FrameError.io .endOfInput).message), .running) ∧
    pairOutcome (some "nowhere") ⟨[.ack], .io .starved⟩
      = .ok (.error (.config "cannot resolve peer address nowhere"), .running) := by
  decide +kernel

end Session

end Federation
