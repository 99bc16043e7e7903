/-
Federation/Proofs/Outline.lean

A session in outline.

What a session is like from outside can be told without a look at its clock, at
its inbox and into its links: its settings, the states that it has gone through,
the port at which it listens, and which links are registered (`Outline`). Few
things change that. A conversation with the coordinator leaves it as it is
(`outline_converse`), and so do the frames that leave or are read; a peer that
comes is registered if it is expected (`gathers_accept`).

For the parts of a start there is one rule each that says where they lead, of
any predicate that what they do preserves. `leads_linkPeer` puts some of them
together: a link to a peer is registered, or everything is as it was. Others say
of two starts that they go alike where they agree on what the part looks at.
-/
import Mathlib
import Federation.Proofs.Course
import Federation.Session.Start

namespace Federation

variable {μ : Type}

open Procedure

/-! ### The outline of a session -/

/-- Which links are registered. -/
@[ext] structure Links where
  coordinator : Bool
  outbound : FederateId → Bool
  inbound : FederateId → Bool

/-- The links of a federate that are registered. -/
def Transport.links (t : Transport) : Links where
  coordinator := t.coordinator.isSome
  outbound := t.hasOutbound
  inbound := t.hasInbound

/-- What can be said of a session without a look at its clock, at its inbox and
into its links. -/
@[ext] structure Outline where
  config : Config
  topology : Topology
  history : List SessionState
  serverPort : Option UInt16
  links : Links

/-- The states of a session so far, the last one first. -/
def Session.history (s : Session μ) : List SessionState := s.state :: s.past

/-- The outline of a session. -/
def Session.outline (s : Session μ) : Outline where
  config := s.config
  topology := s.topology
  history := s.history
  serverPort := s.serverPort
  links := s.node.transport.links

namespace Outline

/-- Peers have been accepted, of those that are expected, and nothing else has
changed. -/
structure Gathers (o o' : Outline) : Prop where
  config : o'.config = o.config
  topology : o'.topology = o.topology
  history : o'.history = o.history
  serverPort : o'.serverPort = o.serverPort
  coordinator : o'.links.coordinator = o.links.coordinator
  outbound : o'.links.outbound = o.links.outbound
  inbound : ∀ peer, o.links.inbound peer = true → o'.links.inbound peer = true
  expected : ∀ peer, o'.links.inbound peer = true →
    o.links.inbound peer = true ∨ peer ∈ o.topology.inbound

theorem Gathers.refl (o : Outline) : o.Gathers o :=
  ⟨rfl, rfl, rfl, rfl, rfl, rfl, fun _ => id, fun _ => .inl⟩

theorem Gathers.trans {o o' o'' : Outline} (h : o.Gathers o')
    (h' : o'.Gathers o'') : o.Gathers o'' where
  config := h'.config.trans h.config
  topology := h'.topology.trans h.topology
  history := h'.history.trans h.history
  serverPort := h'.serverPort.trans h.serverPort
  coordinator := h'.coordinator.trans h.coordinator
  outbound := h'.outbound.trans h.outbound
  inbound peer := h'.inbound peer ∘ h.inbound peer
  expected peer hpeer := by
    rcases h'.expected peer hpeer with hearlier | hexpected
    · exact h.expected peer hearlier
    · rw [h.topology] at hexpected
      exact .inr hexpected

end Outline

/-! ### Links that stay registered -/

namespace Transport

variable {t : Transport} {peer : FederateId} {e : Endpoint}

theorem hasOutbound_addOutbound_iff {other : FederateId} :
    (t.addOutbound peer e).hasOutbound other = true ↔
      other = peer ∨ t.hasOutbound other = true := by
  rw [hasOutbound, addOutbound, Std.ExtTreeMap.contains_insert, Bool.or_eq_true,
    beq_iff_eq, Std.LawfulEqOrd.compare_eq_iff_eq, eq_comm, hasOutbound]

theorem hasInbound_addInbound_iff {other : FederateId} :
    (t.addInbound peer e).2.hasInbound other = true ↔
      other = peer ∨ t.hasInbound other = true := by
  unfold addInbound
  split
  · next hregistered =>
    refine ⟨.inr, ?_⟩
    rintro (rfl | h)
    · exact hregistered
    · exact h
  · rw [hasInbound, Std.ExtTreeMap.contains_insert, Bool.or_eq_true, beq_iff_eq,
      Std.LawfulEqOrd.compare_eq_iff_eq, eq_comm, hasInbound]

theorem links_addInbound (peer : FederateId) (e : Endpoint) :
    (t.addInbound peer e).2.links
      = { t.links with inbound := (t.addInbound peer e).2.hasInbound } := by
  unfold addInbound
  split <;> rfl

end Transport

namespace Node

variable {κ : Type} [FrameSource κ]

theorem transport_readPeer (peer : FederateId) (source : κ) (n : Node μ) :
    (n.readPeer peer source).transport = n.transport := by
  fun_induction readPeer peer source n with
  | case1 => rfl
  | case2 => rfl
  | case3 _ n f _ _ _ e n' hdispatch =>
    have hkept := n.transport_dispatch (.federate peer) f
    rwa [hdispatch] at hkept
  | case4 _ n f _ _ _ _ n' hdispatch ih =>
    have hkept := n.transport_dispatch (.federate peer) f
    rw [hdispatch] at hkept
    exact ih.trans hkept

end Node

namespace Session

variable {s : Session μ}

/-- Only a peer that is expected gets through. -/
theorem leads_hear (a : Admission) (registered : FederateId → Bool) {σ : Type}
    [Link σ] :
    Leads (fun _ => True) (a.hear registered : Conversation σ FederateId)
      (fun peer _ => peer ∈ a.expected) fun _ => True := by
  have hany {α : Type} (m : Conversation σ α) :
      Leads (fun _ => True) m (fun _ _ => True) fun _ => True :=
    leads_of_after fun _ _ => ⟨fun _ => trivial, trivial⟩
  refine (hany _).bind fun frame => ?_
  split
  · next peer _ =>
    split
    · exact (hany _).bind fun _ => leads_throw fun _ => id
    · next hrefusal =>
      have hexpected : peer ∈ a.expected := by
        by_contra hstranger
        simp [Admission.refusal?, hstranger] at hrefusal
        split at hrefusal <;> cases hrefusal
      exact (hany _).bind fun _ => leads_pure fun _ _ => hexpected
  · exact (hany _).bind fun _ => leads_throw fun _ => id

theorem accept_eq (arrival : Socket FrameStream) (s : Session μ) :
    s.accept arrival
      = s.afterHearing (s.heard arrival).1 (s.heard arrival).2.link := rfl

/-- A peer that comes is refused, or it is one that is expected, and then it is
registered. -/
theorem gathers_accept (arrival : Socket FrameStream) (s : Session μ) :
    s.outline.Gathers (s.accept arrival).outline := by
  have hheard := leads_hear s.admission s.node.transport.hasInbound
    ({ link := arrival, clock := s.federate.clock } : Dialogue (Socket FrameStream))
    trivial
  rcases h : s.heard arrival with ⟨e | peer, d'⟩
  · -- nobody was welcome, and nothing is registered
    have haccept : s.accept arrival = s := by
      rw [accept_eq, h]
      rfl
    rw [haccept]
    exact .refl _
  · rw [show s.admission.hear _ _ = _ from h] at hheard
    let e : Endpoint := { peer := .federate peer, wire := d'.link.wire }
    let joined := s.withTransport fun t => (t.addInbound peer e).2
    have hjoined : s.outline.Gathers joined.outline := by
      have hlinks : joined.outline.links
          = { s.outline.links with inbound := joined.outline.links.inbound } :=
        Transport.links_addInbound peer e
      refine ⟨rfl, rfl, rfl, rfl, by rw [hlinks], by rw [hlinks], ?_, ?_⟩
      · intro other hother
        exact Transport.hasInbound_addInbound_iff.mpr (.inr hother)
      · intro other hother
        rcases Transport.hasInbound_addInbound_iff.mp hother with rfl | hearlier
        · exact .inr hheard
        · exact .inl hearlier
    have haccept : s.accept arrival
        = { joined with node := joined.node.readPeer peer d'.link.source } := by
      rw [accept_eq, h]
      rfl
    -- what the peer sends later opens and closes no link
    have houtline : (s.accept arrival).outline = joined.outline := by
      rw [haccept]
      exact Outline.ext rfl rfl rfl rfl
        (congrArg Transport.links (Node.transport_readPeer _ _ _))
    rwa [houtline]

theorem gathers_foldl_accept (arrivals : List (Socket FrameStream))
    (s : Session μ) :
    s.outline.Gathers
      (arrivals.foldl (fun s arrival => s.accept arrival) s).outline := by
  induction arrivals generalizing s with
  | nil => exact .refl _
  | cons arrival arrivals ih => exact (gathers_accept arrival s).trans (ih _)

theorem outline_applySkew (s : Session μ) : s.applySkew.outline = s.outline := by
  unfold applySkew
  split <;> rfl

/-- Where only peers that are expected are registered, and as many as are
expected, all of them are. -/
theorem hasInbound_of_hasAllPeers
    (hexpected : ∀ peer, s.node.transport.hasInbound peer = true →
      peer ∈ s.topology.inbound) (hall : s.hasAllPeers = true) :
    ∀ peer ∈ s.topology.inbound, s.node.transport.hasInbound peer = true := by
  let registered := s.node.transport.inbound.keys
  let expected := s.topology.inbound.toList
  have hmem (peer : FederateId) :
      peer ∈ registered ↔ s.node.transport.hasInbound peer = true :=
    Std.ExtTreeMap.mem_keys.trans Std.ExtTreeMap.mem_iff_contains
  have hsubset : registered ⊆ expected := fun peer hpeer =>
    Std.ExtTreeSet.mem_toList.mpr (hexpected peer ((hmem peer).mp hpeer))
  have hlength : expected.length ≤ registered.length := by
    rw [Std.ExtTreeMap.length_keys, Std.ExtTreeSet.length_toList]
    exact of_decide_eq_true hall
  -- the registered peers are different, so they cannot be as many without being
  -- the same
  have hperm : registered.Perm expected :=
    (List.subperm_of_subset Std.ExtTreeMap.nodup_keys hsubset).perm_of_length_le
      hlength
  intro peer hpeer
  exact (hmem peer).mp (hperm.mem_iff.mpr (Std.ExtTreeSet.mem_toList.mpr hpeer))

end Session

/-! ### The parts of a start -/

namespace Start

variable {α β : Type} {P Q E : Startup μ → Prop} {R : β → Startup μ → Prop}

/-- A conversation with the coordinator registers no link, and leaves the states
as they are. -/
theorem outline_converse (c : Conversation (Socket FrameStream) α) (r : Startup μ) :
    (converse c r).2.session.outline = r.session.outline :=
  Outline.ext rfl rfl rfl rfl (Links.ext Option.isSome_map rfl rfl)

/-- Whether all conversations with the coordinator preserve something. -/
def Lasting (P : Startup μ → Prop) : Prop :=
  ∀ (α : Type) (c : Conversation (Socket FrameStream) α) (r : Startup μ),
    P r → P (converse c r).2

theorem leads_converse (c : Conversation (Socket FrameStream) α) (hP : Lasting P)
    (hE : ∀ r, P r → E r) :
    Leads P (converse c) (fun _ => P) E :=
  leads_of_after fun r h => ⟨fun _ => hP α c r h, hE _ (hP α c r h)⟩

theorem leads_change {f : Session μ → Session μ}
    (h : ∀ r, P r → Q { r with session := f r.session }) :
    Leads P (change f) (fun _ => Q) E := h

theorem leads_ask {f : Session μ → α} : Leads P (ask f) (fun _ => P) E :=
  fun _ h => h

theorem leads_get : Leads P (get : Start μ (Startup μ)) (fun _ => P) E :=
  fun _ h => h

theorem leads_lift (x : Except Fault α) (hE : ∀ r, P r → E r) :
    Leads P (x : Start μ α) (fun _ => P) E := by
  cases x with
  | ok a => exact fun _ h => h
  | error e => exact hE

theorem leads_failOn (e : Option IoError) (fault : IoError → Fault)
    (hE : ∀ r, P r → E r) :
    Leads P (failOn e fault) (fun _ => P) E := by
  cases e with
  | none => exact fun _ h => h
  | some e => exact hE

section Alike

variable {R S : Startup μ → Startup μ → Prop}

theorem alike_change {f f' : Session μ → Session μ} (h : ∀ r r', R r r' →
      S { r with session := f r.session } { r' with session := f' r'.session }) :
    Alike R (change f) (change f') S := fun r r' hR => ⟨rfl, h r r' hR⟩

theorem alike_ask {f : Session μ → α} {k k' : α → Start μ β}
    (h : ∀ r r', R r r' → Alike R (k (f r.session)) (k' (f r'.session)) S) :
    Alike R (ask f >>= k) (ask f >>= k') S := fun r r' hR => h r r' hR r r' hR

theorem alike_get {k k' : Startup μ → Start μ β}
    (h : ∀ r r', R r r' → Alike R (k r) (k' r') S) :
    Alike R (get >>= k) (get >>= k') S := fun r r' hR => h r r' hR r r' hR

theorem alike_lift (x : Except Fault α) :
    Alike R (x : Start μ α) (x : Start μ α) R := by
  cases x with
  | ok a => exact fun _ _ hR => ⟨rfl, hR⟩
  | error e => exact fun _ _ hR => ⟨rfl, hR⟩

theorem alike_failOn (e : Option IoError) (fault : IoError → Fault) :
    Alike R (failOn e fault) (failOn e fault) R := by
  cases e with
  | none => exact fun _ _ hR => ⟨rfl, hR⟩
  | some e => exact fun _ _ hR => ⟨rfl, hR⟩

end Alike

end Start

namespace Session

open Start

variable {P Q : Startup μ → Prop} {net : Network}

theorem leads_peerAddress (hP : Lasting P) (peer : FederateId) :
    Leads P (peerAddress net peer) (fun _ => P) P := by
  refine leads_ask.bind fun s => ?_
  split
  · split
    · exact leads_pure fun _ => id
    · exact leads_throw fun _ => id
  · exact leads_get.bind fun _ => leads_converse _ hP fun _ => id

/-- A link to a peer is registered, or nothing has happened but conversations
with the coordinator. -/
theorem leads_linkPeer (peer : FederateId) (hP : Lasting P)
    (hQ : ∀ r wire, P r →
      let e : Endpoint := { peer := .federate peer, wire }
      Q { r with
        session := r.session.withTransport fun t => t.addOutbound peer e }) :
    Leads P (linkPeer net peer) (fun _ => Q) P := by
  refine (leads_peerAddress hP _).bind fun address => leads_ask.bind fun s => ?_
  refine (leads_lift _ fun _ => id).bind fun socket =>
    (leads_lift _ fun _ => id).bind fun _ => ?_
  exact (leads_failOn _ _ fun _ => id).bind fun _ => leads_change fun r => hQ r _

section Alike

variable {R : Startup μ → Startup μ → Prop} (net)

/-- The link to the coordinator is registered alike, if it was the same. -/
theorem alike_registerCoordinator
    (hwire : ∀ r r', R r r' → r'.link.socket.wire = r.link.socket.wire)
    (hregister : ∀ e, Alike R (change (·.withTransport (·.setCoordinator e)))
      (change (·.withTransport (·.setCoordinator e))) R) :
    Alike R (registerCoordinator net) (registerCoordinator net) R := by
  refine (alike_failOn _ _).bind (fun _ => ?_) fun _ _ => id
  refine alike_get fun r r' h => ?_
  dsimp only
  rw [hwire r r' h]
  exact hregister _

/-- Federates with the same settings listen alike. -/
theorem alike_listenIfExpected
    (hconfig : ∀ r r', R r r' → r'.session.config = r.session.config)
    (hexpected : ∀ r r', R r r' →
      r'.session.topology.inbound = r.session.topology.inbound)
    (henter : ∀ port, Alike R
      (change fun s => { s with serverPort := some port }.enter .listeningForPeers)
      (change fun s => { s with serverPort := some port }.enter .listeningForPeers) R)
    (hadvertise : ∀ port, Alike R (converse (Joining.advertise port))
      (converse (Joining.advertise port)) R) :
    Alike R (listenIfExpected net) (listenIfExpected net) R := by
  rw [listenIfExpected_eq]
  refine alike_ask fun r r' h => ?_
  rw [hexpected r r' h]
  split
  · refine alike_ask fun r r' h => ?_
    rw [id, id, hconfig r r' h]
    refine (alike_lift _).bind (fun port => ?_) fun _ _ => id
    refine (henter port).bind (fun _ => ?_) fun _ _ => id
    exact (hadvertise port).bind (fun _ => alike_failOn _ _) fun _ _ => id
  · exact alike_pure fun _ _ => id

/-- Federates with the same settings ask for further rounds of synchronisation
alike. -/
theorem alike_keepSynchronized
    (hconfig : ∀ r r', R r r' → r'.session.config = r.session.config)
    (hhost : ∀ r r', R r r' → r'.link.isSameHost = r.link.isSameHost) :
    Alike R (keepSynchronized net) (keepSynchronized net) R := by
  refine alike_ask fun r r' h => alike_get fun q q' h' => ?_
  have hsame : r'.session.synchronizesWhileRunning q'.link.isSameHost
      = r.session.synchronizesWhileRunning q.link.isSameHost := by
    rw [hhost q q' h', synchronizesWhileRunning, startupExchanges, hconfig r r' h]
    rfl
  rw [id, id, hsame]
  split
  · exact alike_failOn _ _
  · exact alike_pure fun _ _ => id

end Alike

end Session

end Federation
