/-
Federation/Proofs/Admittance.lean

Which of those that come are admitted.

Whoever opens a link to a federate may send anything first. A federate welcomes
those who tell the id of its own federation and the number of a peer that it
expects and has not registered (`Admission.Welcomes`); it consents, and
registers the link. It declines all others (`Admission.Declines`): it says why,
once, if there was a frame to answer to, and remains as it was.

That is what one attempt comes to (`welcomed`, `declined`). Over a row of
attempts, whatever their order, it follows by induction at the end of the row
that the registered peers are the ones that were welcome when they came
(`hasInbound_acceptAll_iff`), and that a link that is registered remains
(`getElem?_acceptAll`). Only peers that are expected are registered, so it is
enough to count them to know that all have come (`inbound_registry`).
-/
import Mathlib
import Federation.Proofs.Outflow
import Federation.Proofs.Outline

namespace Federation

variable {μ : Type}

open Procedure

/-! ### Answers -/

namespace Wire

variable {w : Wire} {f : Frame}

theorem writes_writeFrame (h : (w.writeFrame f).1 = .ok ()) :
    w.Writes [f] (w.writeFrame f).2 := by
  rw [writeFrame] at h ⊢
  cases hencode : f.encode with
  | error e =>
    rw [hencode] at h
    cases h
  | ok bytes =>
    rw [hencode] at h
    refine writes_write hencode ?_
    rcases hwrite : w.write bytes with ⟨e | _, w'⟩
    · simp only [hwrite] at h
      cases h
    · rfl

theorem writeFrame_of_unbounded {bytes : ByteArray} (h : w.room = none)
    (hencode : f.encode = .ok bytes) :
    (w.writeFrame f).1 = .ok () := by
  rw [writeFrame, hencode]
  dsimp only
  rw [write_of_unbounded h]
  rfl

end Wire

namespace Admission

variable {κ : Type} [FrameSource κ]
variable {a : Admission} {registered : FederateId → Bool} {peer : FederateId}
  {reason : Option RejectReason}
variable {first : Except FrameError Frame} {d : Dialogue (Socket κ)}

/-- Who is welcome. -/
structure Welcomes (a : Admission) (registered : FederateId → Bool)
    (first : Except FrameError Frame) (peer : FederateId) : Prop where
  introduction : first = .ok (.joinPeer peer a.federationId)
  expected : peer ∈ a.expected
  free : registered peer = false

/-- Who is declined, and for which reason: the first that applies, and none if
no frame can be read. -/
inductive Declines (a : Admission) (registered : FederateId → Bool) :
    Except FrameError Frame → Option RejectReason → Prop
  | unread (e : FrameError) : Declines a registered (.error e) none
  | message {f : Frame} (h : f.kind ≠ .joinPeer) :
      Declines a registered (.ok f) (some .unexpectedMessage)
  | federation {peer : FederateId} {id : String} (h : id ≠ a.federationId) :
      Declines a registered (.ok (.joinPeer peer id)) (some .federationIdMismatch)
  | range {peer : FederateId} (h : peer ∉ a.expected) :
      Declines a registered (.ok (.joinPeer peer a.federationId))
        (some .federateIdOutOfRange)
  | inUse {peer : FederateId} (hexpected : peer ∈ a.expected)
      (h : registered peer = true) :
      Declines a registered (.ok (.joinPeer peer a.federationId))
        (some .federateIdInUse)

theorem welcomes_or_declines (a : Admission) (registered : FederateId → Bool)
    (first : Except FrameError Frame) :
    (∃ peer, a.Welcomes registered first peer) ∨
      ∃ reason, a.Declines registered first reason := by
  rcases first with e | f
  · exact .inr ⟨_, .unread e⟩
  · by_cases hkind : f.kind = .joinPeer
    · obtain ⟨peer, id, rfl⟩ : ∃ peer id, f = .joinPeer peer id := by
        cases f with
        | joinPeer peer id => exact ⟨peer, id, rfl⟩
        | _ => cases hkind
      by_cases hid : id = a.federationId
      · subst hid
        by_cases hexpected : peer ∈ a.expected
        · cases hfree : registered peer with
          | true => exact .inr ⟨_, .inUse hexpected hfree⟩
          | false => exact .inl ⟨peer, rfl, hexpected, hfree⟩
        · exact .inr ⟨_, .range hexpected⟩
      · exact .inr ⟨_, .federation hid⟩
    · exact .inr ⟨_, .message hkind⟩

theorem Welcomes.unique {peer' : FederateId} (h : a.Welcomes registered first peer)
    (h' : a.Welcomes registered first peer') : peer = peer' := by
  have hfirst := h.introduction.symm.trans h'.introduction
  cases hfirst
  rfl

/-- Nobody is welcome and declined. -/
theorem Declines.not_welcomes (h : a.Declines registered first reason)
    (peer : FederateId) :
    ¬ a.Welcomes registered first peer := by
  rintro ⟨hfirst, hexpected, hfree⟩
  cases h with
  | unread e => cases hfirst
  | message h =>
    cases hfirst
    exact h rfl
  | federation h =>
    cases hfirst
    exact h rfl
  | range h =>
    cases hfirst
    exact h hexpected
  | inUse _ h =>
    cases hfirst
    rw [hfree] at h
    cases h

theorem refusal?_of_welcomes (h : a.Welcomes registered first peer) :
    a.refusal? registered peer a.federationId = none := by
  simp [refusal?, h.expected, h.free]

/-- The conversation once the first frame has been read, or cannot be. -/
def afterFirst (d : Dialogue (Socket κ)) : Dialogue (Socket κ) :=
  { d with link := { d.link with source := (FrameSource.next d.link.source).2 } }

theorem receive_of_first (hfirst : (FrameSource.next d.link.source).1 = first)
    (peer : String) :
    Conversation.receive peer d
      = (first.mapError (Fault.ofRead peer), afterFirst d) := by
  subst hfirst
  rfl

/-- The conversation with one that is welcome ends with it, and with consent. -/
theorem hear_of_welcomes
    (h : a.Welcomes registered (FrameSource.next d.link.source).1 peer)
    (hack : (d.link.wire.writeFrame .ack).1 = .ok ()) :
    (a.hear registered d).1 = .ok peer ∧
      d.link.wire.Writes [.ack] (a.hear registered d).2.link.wire := by
  have hwrites := Wire.writes_writeFrame hack
  rw [hear, bind_of_ok (receive_of_first h.introduction _)]
  dsimp only
  rw [refusal?_of_welcomes h]
  dsimp only
  have hwrite : (afterFirst d).link.wire.writeFrame .ack
      = (.ok (), (d.link.wire.writeFrame .ack).2) := Prod.ext hack rfl
  rw [bind_of_ok (Conversation.send_of_send (Socket.send_of_writeFrame hwrite) _)]
  exact ⟨rfl, hwrites⟩

/-- The conversation once a reason has been told, or could not be. -/
def afterReject (reason : RejectReason) (d : Dialogue (Socket κ)) :
    Dialogue (Socket κ) :=
  { afterFirst d with link := ((afterFirst d).link.send (.reject reason)).2 }

theorem hear_of_refusal {id : String} {reason : RejectReason}
    (hfirst : (FrameSource.next d.link.source).1 = .ok (.joinPeer peer id))
    (h : a.refusal? registered peer id = some reason) :
    a.hear registered d
      = (.error (.rejected peer.render reason), afterReject reason d) := by
  rw [hear, bind_of_ok (receive_of_first hfirst _)]
  dsimp only
  rw [h]
  rfl

theorem hear_of_kind_ne {f : Frame}
    (hfirst : (FrameSource.next d.link.source).1 = .ok f)
    (h : f.kind ≠ .joinPeer) :
    a.hear registered d = (.error (.protocol "inbound peer"
        ("expected P2pSendingFedId, got " ++ f.kindName)),
      afterReject .unexpectedMessage d) := by
  rw [hear, bind_of_ok (receive_of_first hfirst _)]
  cases f with
  | joinPeer peer id => exact absurd rfl h
  | _ => rfl

theorem hear_of_unread {e : FrameError}
    (hfirst : (FrameSource.next d.link.source).1 = .error e) :
    a.hear registered d = (.error (.ofRead "inbound peer" e), afterFirst d) := by
  rw [hear, bind_of_error (receive_of_first hfirst _)]

/-- The conversation with one that is declined fails, and says why. -/
theorem hear_of_declines
    (h : a.Declines registered (FrameSource.next d.link.source).1 reason) :
    (∃ fault, (a.hear registered d).1 = .error fault) ∧
      ((∀ r ∈ reason, (d.link.wire.writeFrame (.reject r)).1 = .ok ()) →
        d.link.wire.Writes (reason.map Frame.reject).toList
          (a.hear registered d).2.link.wire) := by
  have hreject (reason : RejectReason)
      (hsent : ∀ r ∈ some reason, (d.link.wire.writeFrame (.reject r)).1 = .ok ()) :
      d.link.wire.Writes [.reject reason] (afterReject reason d).link.wire :=
    Wire.writes_writeFrame (hsent reason rfl)
  generalize hfirst : (FrameSource.next d.link.source).1 = first at h
  cases h with
  -- nothing was read, so there is no one to tell
  | unread e =>
    rw [hear_of_unread hfirst]
    exact ⟨⟨_, rfl⟩, fun _ => .refl _⟩
  | message h =>
    rw [hear_of_kind_ne hfirst h]
    exact ⟨⟨_, rfl⟩, hreject _⟩
  -- the reasons are looked for in this order
  | federation h =>
    rw [hear_of_refusal hfirst (if_pos h)]
    exact ⟨⟨_, rfl⟩, hreject _⟩
  | @range peer h =>
    have hrefusal : a.refusal? registered peer a.federationId
        = some .federateIdOutOfRange := by
      simp [refusal?, h]
    rw [hear_of_refusal hfirst hrefusal]
    exact ⟨⟨_, rfl⟩, hreject _⟩
  | @inUse peer hexpected h =>
    have hrefusal :
        a.refusal? registered peer a.federationId = some .federateIdInUse := by
      simp [refusal?, hexpected, h]
    rw [hear_of_refusal hfirst hrefusal]
    exact ⟨⟨_, rfl⟩, hreject _⟩

end Admission

/-! ### One attempt -/

namespace Session

variable {s : Session μ} {arrival : Socket FrameStream} {peer : FederateId}
  {reason : Option RejectReason}

/-- Who is welcome when it comes. -/
def Welcomes (s : Session μ) (arrival : Socket FrameStream)
    (peer : FederateId) : Prop :=
  s.admission.Welcomes s.node.transport.hasInbound
    (FrameSource.next arrival.source).1 peer

/-- Who is declined when it comes, and for which reason. -/
def Declines (s : Session μ) (arrival : Socket FrameStream)
    (reason : Option RejectReason) : Prop :=
  s.admission.Declines s.node.transport.hasInbound
    (FrameSource.next arrival.source).1 reason

/-- These frames answer to one that comes. -/
def Answers (s : Session μ) (arrival : Socket FrameStream)
    (frames : List Frame) : Prop :=
  arrival.wire.Writes frames (s.heard arrival).2.link.wire

/-- The link to one that comes, as it is after the answer. -/
def linkFrom (s : Session μ) (arrival : Socket FrameStream) (peer : FederateId) :
    Endpoint where
  peer := .federate peer
  wire := (s.heard arrival).2.link.wire

/-- The answer to one that comes goes out. -/
structure Conveys (s : Session μ) (arrival : Socket FrameStream) : Prop where
  ack : ∀ peer, s.Welcomes arrival peer → (arrival.wire.writeFrame .ack).1 = .ok ()
  reject : ∀ reason, s.Declines arrival (some reason) →
    (arrival.wire.writeFrame (.reject reason)).1 = .ok ()

theorem conveys_of_unbounded (s : Session μ) (h : arrival.wire.room = none) :
    s.Conveys arrival where
  ack _ _ := Wire.writeFrame_of_unbounded h rfl
  reject _ _ := Wire.writeFrame_of_unbounded h rfl

/-- One that comes is welcome or declined. -/
theorem welcomes_or_declines (s : Session μ) (arrival : Socket FrameStream) :
    (∃ peer, s.Welcomes arrival peer) ∨ ∃ reason, s.Declines arrival reason :=
  s.admission.welcomes_or_declines s.node.transport.hasInbound
    (FrameSource.next arrival.source).1

theorem accept_of_error {fault : Fault}
    (h : (s.heard arrival).1 = .error fault) : s.accept arrival = s := by
  rw [accept_eq, h]
  rfl

/-- Whoever gets through is registered. What is read over the link later does
not change that. -/
theorem transport_accept_of_ok (h : (s.heard arrival).1 = .ok peer) :
    (s.accept arrival).node.transport
      = (s.node.transport.addInbound peer (s.linkFrom arrival peer)).2 := by
  rw [accept_eq, h]
  exact Node.transport_readPeer _ _ _

/-- Who is welcome gets consent and is registered. -/
theorem welcomed (h : s.Welcomes arrival peer) (hconveys : s.Conveys arrival) :
    s.Answers arrival [.ack] ∧
      (s.accept arrival).node.transport =
        { s.node.transport with
          inbound := s.node.transport.inbound.insert peer (s.linkFrom arrival peer) } := by
  obtain ⟨hresult, hanswer⟩ := Admission.hear_of_welcomes
    (d := { link := arrival, clock := s.federate.clock }) h (hconveys.ack peer h)
  refine ⟨hanswer, ?_⟩
  rw [transport_accept_of_ok hresult, Transport.addInbound,
    if_neg (by rw [h.free]; decide)]

/-- Who is declined gets told why, and nothing changes. -/
theorem declined (h : s.Declines arrival reason) :
    s.accept arrival = s ∧
      (s.Conveys arrival → s.Answers arrival (reason.map Frame.reject).toList) := by
  obtain ⟨⟨fault, hresult⟩, hanswer⟩ := Admission.hear_of_declines
    (d := { link := arrival, clock := s.federate.clock }) h
  refine ⟨accept_of_error hresult, fun hconveys => hanswer ?_⟩
  rintro r rfl
  exact hconveys.reject r h

theorem hasInbound_accept_iff (hconveys : s.Conveys arrival) :
    (s.accept arrival).node.transport.hasInbound peer = true ↔
      s.node.transport.hasInbound peer = true ∨ s.Welcomes arrival peer := by
  rcases s.welcomes_or_declines arrival with ⟨other, h⟩ | ⟨reason, h⟩
  · rw [(welcomed h hconveys).2, Transport.hasInbound,
      Std.ExtTreeMap.contains_insert, Bool.or_eq_true, beq_iff_eq,
      Std.LawfulEqOrd.compare_eq_iff_eq, or_comm]
    refine or_congr Iff.rfl ⟨?_, h.unique⟩
    rintro rfl
    exact h
  · rw [(declined h).1]
    exact (or_iff_left (h.not_welcomes peer)).symm

/-- What is registered remains, whoever comes and whether the answer goes out. -/
theorem getElem?_accept {e : Endpoint}
    (h : s.node.transport.inbound[peer]? = some e) (arrival : Socket FrameStream) :
    (s.accept arrival).node.transport.inbound[peer]? = some e := by
  cases hresult : (s.heard arrival).1 with
  | error fault => rwa [accept_of_error hresult]
  | ok other =>
    rw [transport_accept_of_ok hresult, Transport.addInbound]
    split
    · exact h
    · next hfree =>
      -- whoever is registered now was not before
      have hne : other ≠ peer := by
        rintro rfl
        rw [Transport.hasInbound, Std.ExtTreeMap.contains_eq_isSome_getElem?, h]
          at hfree
        exact hfree rfl
      rw [Std.ExtTreeMap.getElem?_insert,
        if_neg (mt Std.LawfulEqOrd.compare_eq_iff_eq.mp hne)]
      exact h

/-! ### One attempt after another -/

/-- The session after these came, one after another. -/
def acceptAll (s : Session μ) (arrivals : List (Socket FrameStream)) : Session μ :=
  arrivals.foldl (fun s arrival => s.accept arrival) s

variable {arrivals : List (Socket FrameStream)}

@[simp] theorem acceptAll_concat (s : Session μ)
    (arrivals : List (Socket FrameStream)) (arrival : Socket FrameStream) :
    s.acceptAll (arrivals ++ [arrival]) = (s.acceptAll arrivals).accept arrival :=
      List.foldl_concat ..

/-- The registered peers are those that were registered at the start, and those
that were welcome when they came. -/
theorem hasInbound_acceptAll_iff (hconveys : ∀ before arrival,
      before ++ [arrival] <+: arrivals → (s.acceptAll before).Conveys arrival) :
    (s.acceptAll arrivals).node.transport.hasInbound peer = true ↔
      s.node.transport.hasInbound peer = true ∨
        ∃ before arrival, before ++ [arrival] <+: arrivals ∧
          (s.acceptAll before).Welcomes arrival peer := by
  induction arrivals using List.reverseRecOn with
  | nil =>
    refine (or_iff_left ?_).symm
    rintro ⟨before, arrival, hinitial, -⟩
    exact List.concat_ne_nil _ _ (List.prefix_nil.mp hinitial)
  | append_singleton arrivals arrival ih =>
    -- the last one that came came to the session that the others had left
    have hearlier := ih fun before earlier hinitial =>
      hconveys before earlier (hinitial.trans (List.prefix_append _ _))
    have hlast := hconveys arrivals arrival (List.prefix_refl _)
    rw [acceptAll_concat, hasInbound_accept_iff hlast, hearlier, or_assoc]
    refine or_congr_right ⟨?_, ?_⟩
    · rintro (⟨before, earlier, hinitial, h⟩ | h)
      · exact ⟨before, earlier, hinitial.trans (List.prefix_append _ _), h⟩
      · exact ⟨arrivals, arrival, List.prefix_refl _, h⟩
    · rintro ⟨before, earlier, hinitial, h⟩
      -- a peer that was welcome was the last one, or came before it
      rcases List.prefix_concat_iff.mp hinitial with hlast | hinitial
      · obtain ⟨rfl, hsame⟩ := List.append_inj' hlast rfl
        cases hsame
        exact .inr h
      · exact .inl ⟨before, earlier, hinitial, h⟩

theorem getElem?_acceptAll {e : Endpoint}
    (h : s.node.transport.inbound[peer]? = some e)
    (arrivals : List (Socket FrameStream)) :
    (s.acceptAll arrivals).node.transport.inbound[peer]? = some e := by
  induction arrivals generalizing s with
  | nil => exact h
  | cons arrival arrivals ih => exact ih (getElem?_accept h arrival)

theorem hasAllPeers_of_hasInbound
    (h : ∀ peer ∈ s.topology.inbound, s.node.transport.hasInbound peer = true) :
    s.hasAllPeers = true := by
  have hnodup : s.topology.inbound.toList.Nodup :=
    Std.ExtTreeSet.distinct_toList.imp (mt Std.LawfulEqOrd.compare_eq_iff_eq.mpr)
  have hsubset : s.topology.inbound.toList ⊆ s.node.transport.inbound.keys :=
      fun peer hpeer =>
    Std.ExtTreeMap.mem_keys.mpr (h peer (Std.ExtTreeSet.mem_toList.mp hpeer))
  -- the expected peers are different, so they are no more than those they are among
  have hlength := (List.subperm_of_subset hnodup hsubset).length_le
  rw [Std.ExtTreeSet.length_toList, Std.ExtTreeMap.length_keys] at hlength
  exact decide_eq_true hlength

/-- **The registry of inbound peers.** Let any peers come to a session, one after
another, whatever they send first. One that introduces itself with the id of the
federation and the number of a peer that is expected and not registered yet is
consented to and registered; any other is told once why not, if its first frame
can be read, and changes nothing. What is registered remains as it is, and exactly
if as many are registered as are expected, all of them are. -/
theorem inbound_registry {s₀ : Session μ} (arrivals : List (Socket FrameStream))
    (hstart : ∀ peer,
      s₀.node.transport.hasInbound peer = true → peer ∈ s₀.topology.inbound)
    (hconveys : ∀ before arrival, before ++ [arrival] <+: arrivals →
      (s₀.acceptAll before).Conveys arrival) :
    let s := s₀.acceptAll arrivals
    (s.config = s₀.config ∧ s.topology = s₀.topology) ∧
    (∀ arrival, s.Conveys arrival →
      (∀ peer, s.Welcomes arrival peer →
        s.Answers arrival [.ack] ∧
        (s.accept arrival).node.transport =
          { s.node.transport with
            inbound :=
              s.node.transport.inbound.insert peer (s.linkFrom arrival peer) }) ∧
      ((∀ peer, ¬ s.Welcomes arrival peer) →
        ∃ reason, s.Declines arrival reason ∧
          s.Answers arrival (reason.map Frame.reject).toList ∧
          s.accept arrival = s)) ∧
    (∀ peer, s.node.transport.hasInbound peer = true ↔
      s₀.node.transport.hasInbound peer = true ∨
        ∃ before arrival, before ++ [arrival] <+: arrivals ∧
          (s₀.acceptAll before).Welcomes arrival peer) ∧
    (s.node.transport.inbound.keys.Nodup ∧
      s.node.transport.inbound.keys ⊆ s₀.topology.inbound.toList) ∧
    (∀ (later : List (Socket FrameStream)) (peer : FederateId) (e : Endpoint),
      s.node.transport.inbound[peer]? = some e →
      (s.acceptAll later).node.transport.inbound[peer]? = some e) ∧
    (s.hasAllPeers = true ↔ ∀ peer ∈ s₀.topology.inbound,
      s.node.transport.hasInbound peer = true) := by
  intro s
  have hgathers : s₀.outline.Gathers s.outline := gathers_foldl_accept arrivals s₀
  have htopology : s.topology = s₀.topology := hgathers.topology
  have hexpected (peer : FederateId) (h : s.node.transport.hasInbound peer = true) :
      peer ∈ s₀.topology.inbound := (hgathers.expected peer h).elim (hstart peer) id
  refine ⟨⟨hgathers.config, htopology⟩, ?_,
    fun peer => hasInbound_acceptAll_iff hconveys, ⟨?_, ?_⟩, ?_, ?_⟩
  · -- one that comes is welcome or declined, and never both
    intro arrival hconveys
    refine ⟨fun peer h => welcomed h hconveys, fun hnobody => ?_⟩
    rcases s.welcomes_or_declines arrival with ⟨peer, h⟩ | ⟨reason, h⟩
    · exact absurd h (hnobody peer)
    · obtain ⟨hsame, hanswer⟩ := declined h
      exact ⟨reason, h, hanswer hconveys, hsame⟩
  · exact Std.ExtTreeMap.nodup_keys
  · intro peer hpeer
    exact Std.ExtTreeSet.mem_toList.mpr
      (hexpected peer
        (Std.ExtTreeMap.mem_iff_contains.mp (Std.ExtTreeMap.mem_keys.mp hpeer)))
  · intro later peer e h
    exact getElem?_acceptAll h later
  · rw [← htopology] at hexpected ⊢
    exact ⟨hasInbound_of_hasAllPeers hexpected, hasAllPeers_of_hasInbound⟩

/-- The session of a federate without connections that expects two peers. -/
def hostSession : Except Fault (Session Empty) := do
  let plan ← (Plan.build ⟨2⟩ [] .centralized fun _ => .zero).mapError fun e =>
      .config e.message
  let config : Config := { federate := ⟨2⟩, federationId := "fed" }
  let peers : PeerSettings := { inbound := [⟨1⟩, ⟨3⟩] }
  Session.new { config with peers } plan ⟨⟨.epoch, 0⟩, ∅⟩
    { readings := fun _ => .epoch } {}

/-- The two peers, one of them twice, among others that are declined each for
another reason. -/
def guests : List (Socket FrameStream) :=
  [⟨[.resign], .io .endOfInput⟩, ⟨[.joinPeer ⟨3⟩ "fed"], .io .starved⟩,
    ⟨[], .io .endOfInput⟩,
    ⟨[.joinPeer ⟨1⟩ "other"], .io .starved⟩, ⟨[.joinPeer ⟨3⟩ "fed"], .io .starved⟩,
    ⟨[.joinPeer ⟨7⟩ "fed"], .io .starved⟩,
      ⟨[.joinPeer ⟨1⟩ "fed"], .io .starved⟩].map fun source => { source }

theorem inbound_registry_of_two :
    ∃ s₀, hostSession = .ok s₀ ∧
      ∀ peer ∈ s₀.topology.inbound,
        (s₀.acceptAll guests).node.transport.hasInbound peer = true := by
  obtain ⟨s₀, hs₀⟩ : ∃ s₀, hostSession = .ok s₀ := ⟨_, rfl⟩
  have hstart (peer : FederateId) (h : s₀.node.transport.hasInbound peer = true) :
      peer ∈ s₀.topology.inbound := by
    cases hs₀
    simp [Transport.hasInbound] at h
  have hconveys (before : List (Socket FrameStream)) (arrival : Socket FrameStream)
      (hinitial : before ++ [arrival] <+: guests) :
      (s₀.acceptAll before).Conveys arrival := by
    obtain ⟨source, -, rfl⟩ :=
      List.mem_map.mp
        (hinitial.subset (List.mem_append_right _ List.mem_cons_self))
    exact conveys_of_unbounded _ rfl
  obtain ⟨-, -, -, -, -, hall⟩ := inbound_registry guests hstart hconveys
  refine ⟨s₀, hs₀, hall.mp ?_⟩
  cases hs₀
  decide +kernel

end Session

end Federation
