/-
Federation/Proofs/Modes.lean

What the coordination of a federation changes, and what it does not.

A federation may be run with a coordinator that grants every advance of time, or
its federates may advance on their own. From one list of connections come two
plans of a federate then, or none. The plans share their outlets, their inlets
but for the offsets, and what they tell of neighbours (`Plan.SharesAllBut`); the
links differ by those that only logical connections would need.

At run time the coordination is asked in three places: the way of a message, the
end of a wait, and the note of an arrival. So the same leaves in both cases, on
another way: the relayed parcel and the direct one say the same of the same
input (`Parcel.Rerouted`), and there is a fault in the one case exactly if there
is in the other (`Likewise`). And the same enters: the ports hold the same, but
for the tag that a message was intended for, which is noted in one case only
(`Inlet.ReceivesAs`).
-/
import Mathlib
import Federation.Proofs.Delivery
import Federation.Proofs.Peers

namespace Federation

variable {μ : Type}

/-- The setting under another coordination. -/
def Context.under (ctx : Context μ) (m : Coordination) : Context μ :=
  { ctx with coordination := m }

@[simp] theorem Context.codec_under (ctx : Context μ) (m : Coordination) :
    (ctx.under m).codec = ctx.codec := rfl

/-! ### What leaves -/

/-- Whether the second parcel says what the first does, where no coordinator
relays it. -/
inductive Parcel.Rerouted : Parcel → Parcel → Prop
  /-- An untimed message goes the same way. -/
  | untimed (m : UntimedMessage) :
      Rerouted ⟨.federate m.federate, .untimedMessage m⟩
        ⟨.federate m.federate, .untimedMessage m⟩
  /-- A tagged message goes straight to the one that it is addressed to. -/
  | tagged (m : TaggedMessage) :
      Rerouted ⟨.coordinator, .taggedMessage m⟩
        ⟨.federate m.federate, .peerTaggedMessage m⟩
  /-- So does a notice. -/
  | notice (n : AbsentNotice) :
      Rerouted ⟨.coordinator, .portAbsent n⟩ ⟨.federate n.federate, .portAbsent n⟩

/-- Whether there is the same to post: a fault, nothing, or one parcel. -/
inductive Likewise :
    Except Fault (Option Parcel) → Except Fault (Option Parcel) → Prop
  | fault (e : Fault) : Likewise (.error e) (.error e)
  | nothing : Likewise (.ok none) (.ok none)
  | parcel {p q : Parcel} (h : p.Rerouted q) :
      Likewise (.ok (some p)) (.ok (some q))

theorem Likewise.parcels {x y : Except Fault (Option Parcel)} (h : Likewise x y) :
    List.Forall₂ Parcel.Rerouted x.toOption.join.toList y.toOption.join.toList := by
  cases h with
  | fault e => exact .nil
  | nothing => exact .nil
  | parcel h => exact .cons h .nil

namespace Outlet

variable {o : Outlet} {ctx : Context μ} {view : PortView μ} {m : Coordination}

theorem destination_of_physical (h : o.connection.physical = true) :
    o.destination m = .federate o.receiver := by
  rw [destination, Connection.route_of_physical h]
  rfl

theorem destination_of_logical (h : o.connection.physical = false) :
    o.destination m = match m with
      | .centralized => .coordinator
      | .decentralized => .federate o.receiver := by
  rw [destination, Connection.route_of_logical h]
  cases m <;> rfl

/-- The coordination has a say in the frame of a payload and in where it goes,
but not before. -/
theorem message?_under {value : PortValue μ} (hvalue : o.value? view = some value) :
    o.message? (ctx.under m) view = (o.encode ctx.codec value).bind fun payload =>
      (o.frame m view payload).map fun frame => some ⟨o.destination m, frame⟩ := by
  rcases hpayload : o.encode ctx.codec value with e | payload
  · rw [message?, hvalue]
    simp only [Context.codec_under, hpayload]
    rfl
  · exact o.message?_of_encode hvalue hpayload

theorem message?_likewise (o : Outlet) (ctx : Context μ) (view : PortView μ) :
    Likewise (o.message? (ctx.under .centralized) view)
      (o.message? (ctx.under .decentralized) view) := by
  rcases hvalue : o.value? view with - | value
  · rw [message?, message?, hvalue]
    exact .nothing
  · rw [message?_under hvalue, message?_under hvalue]
    rcases o.encode ctx.codec value with e | payload
    · exact .fault e
    · rcases hphysical : o.connection.physical with - | -
      · -- both ways have the tag of arrival in the frame, so both fail without it
        simp only [Except.bind, Outlet.frame, Connection.route_of_logical hphysical,
          destination_of_logical hphysical]
        rcases o.arrivalTag view with e | arrival
        · exact .fault e
        · exact .parcel (.tagged ⟨o.port, o.receiver, arrival, payload⟩)
      · simp only [Except.bind, Outlet.frame,
          Connection.route_of_physical hphysical, destination_of_physical hphysical]
        exact .parcel (.untimed ⟨o.port, o.receiver, payload⟩)

theorem notice?_likewise (hlogical : o.connection.isLogical = true)
    (ctx : Context μ) (view : PortView μ) :
    Likewise (o.notice? (ctx.under .centralized) view)
      (o.notice? (ctx.under .decentralized) view) := by
  have hphysical : o.connection.physical = false :=
    Connection.isLogical_iff.mp hlogical
  unfold notice?
  split
  · exact .nothing
  · simp only [Context.under, destination_of_logical hphysical]
    rcases o.arrivalTag view with e | arrival
    · exact .fault e
    · exact .parcel (.notice ⟨o.port, o.receiver, arrival⟩)

section Post

variable {σ σ' : Type} {post : Post σ} {post' : Post σ'}
variable (hpost : ∀ parcel s, (post parcel s).1 = .ok ())
variable (hpost' : ∀ parcel s, (post' parcel s).1 = .ok ())
include hpost hpost'

/-- If no sending fails, an outlet reports the same in both cases. -/
theorem send_under (o : Outlet) (ctx : Context μ) (view : PortView μ) (s : σ)
    (s' : σ') :
    (o.send post (ctx.under .centralized) view s).1
      = (o.send post' (ctx.under .decentralized) view s').1 := by
  have h := o.message?_likewise ctx view
  rw [send, send]
  generalize o.message? (ctx.under .centralized) view = x at h ⊢
  generalize o.message? (ctx.under .decentralized) view = y at h ⊢
  cases h with
  | fault e => rfl
  | nothing => rfl
  | parcel h =>
    show o.settle _ = o.settle _
    rw [hpost, hpost']

theorem announce_under (hlogical : o.connection.isLogical = true)
    (ctx : Context μ) (view : PortView μ) (s : σ) (s' : σ') :
    (o.announce post (ctx.under .centralized) view s).1
      = (o.announce post' (ctx.under .decentralized) view s').1 := by
  have h := notice?_likewise hlogical ctx view
  rcases hcentral : o.notice? (ctx.under .centralized) view with e | parcel? <;>
    rcases hown : o.notice? (ctx.under .decentralized) view with e' | parcel?' <;>
    rw [hcentral, hown] at h
  · cases h
    rw [announce, announce, hcentral, hown]
  · cases h
  · cases h
  · rw [announce_of_notice? hpost hcentral, announce_of_notice? hpost' hown]
    cases h <;> rfl

end Post

end Outlet

namespace Turn

variable {plan : Plan} {ctx : Context μ}

/-- A turn has the same to post in both cases. -/
theorem parcels_under (ctx : Context μ) (t : Turn μ) :
    List.Forall₂ Parcel.Rerouted (t.parcels (ctx.under .centralized))
      (t.parcels (ctx.under .decentralized)) := by
  cases t with
  | send o view => exact (o.message?_likewise ctx view).parcels
  | announce o view =>
    show List.Forall₂ _ (o.notices _ view) (o.notices _ view)
    unfold Outlet.notices
    split
    · next hlogical => exact (Outlet.notice?_likewise hlogical ctx view).parcels
    · exact .nil

/-- And so has a run of turns. -/
theorem parcels_run_under (ctx : Context μ) (turns : List (Turn μ)) :
    List.Forall₂ Parcel.Rerouted (turns.flatMap (parcels (ctx.under .centralized)))
      (turns.flatMap (parcels (ctx.under .decentralized))) := by
  induction turns with
  | nil => exact .nil
  | cons t turns ih =>
    rw [List.flatMap_cons, List.flatMap_cons]
    exact List.rel_append (parcels_under ctx t) ih

end Turn

/-! ### What enters -/

/-- What a port holds may be changed twice at once. -/
theorem PortStore.update_update (s : PortStore μ) (port : Port)
    (f g : PortState μ → PortState μ) :
    (s.update port f).update port g = s.update port (g ∘ f) := by
  apply PortStore.ext
  · simp
  · apply Std.ExtTreeMap.ext_getElem?
    intro port'
    simp only [ports_update, state_update_self, Std.ExtTreeMap.getElem?_insert,
      Function.comp_apply]
    split <;> rfl

namespace Inlet

/-- What a port holds after a message, by what its payload says: the value, and
a note in any case. -/
def arrive (read : Except Fault (PortValue μ)) (note : ArrivalNote)
    (p : PortState μ) : PortState μ :=
  match read with
  | .ok value => ⟨some value, false, some note⟩
  | .error _ => { p with note := some note }

/-- A message changes one port only, and at once. -/
theorem receive_eq (i : Inlet) (ctx : Context μ) (m : ReceivedMessage)
    (s : PortStore μ) :
    i.receive ctx m s = ((i.decode ctx.codec m.payload).map fun _ => (),
      s.update i.destination
        (arrive (i.decode ctx.codec m.payload) (i.noteOf ctx m))) := by
  rw [receive]
  rcases i.decode ctx.codec m.payload with e | value
  · rfl
  · simp only [PortStore.addNote, PortStore.set, PortStore.update_update]
    rfl

/-- Whether the second inlet, where federates advance on their own, takes a
message in as the first does where they do not. The ports come to hold the same,
but that in the second case it is noted of the destination which tag the message
was intended for, if it came on a logical connection. -/
structure ReceivesAs (i i' : Inlet) (ctx : Context μ) (m : ReceivedMessage)
    (s : PortStore μ) : Prop where
  result : (i.receive (ctx.under .centralized) m s).1
    = (i'.receive (ctx.under .decentralized) m s).1
  note : ((i.receive (ctx.under .centralized) m s).2.state i.destination).note
    = some ⟨m.arrival, none⟩
  ports : (i'.receive (ctx.under .decentralized) m s).2
    = (i.receive (ctx.under .centralized) m s).2.addNote i.destination
        ⟨m.arrival, if i.connection.isLogical then m.intended else none⟩

theorem receivesAs_of_toOutlet_eq {i i' : Inlet} (h : i.toOutlet = i'.toOutlet)
    (ctx : Context μ) (m : ReceivedMessage) (s : PortStore μ) :
    i.ReceivesAs i' ctx m s := by
  have hdecode : i'.decode ctx.codec m.payload = i.decode ctx.codec m.payload := by
    rw [decode, decode, h]
  have hdestination : i'.destination = i.destination := by
    rw [destination, destination, h]
  have hnote : i'.noteOf (ctx.under .decentralized) m
      = ⟨m.arrival, if i.connection.isLogical then m.intended else none⟩ := by
    rw [h]
    rfl
  have hcentral := i.receive_eq (ctx.under .centralized) m s
  have hown := i'.receive_eq (ctx.under .decentralized) m s
  rw [Context.codec_under] at hcentral
  rw [Context.codec_under, hdecode, hdestination, hnote] at hown
  refine ⟨?_, ?_, ?_⟩
  · rw [hcentral, hown]
  · rw [hcentral, PortStore.state_update_self]
    cases i.decode ctx.codec m.payload <;> rfl
  · rw [hcentral, hown, PortStore.addNote, PortStore.update_update]
    show s.update _ _ = s.update _ _
    congr 1
    funext p
    cases i.decode ctx.codec m.payload <;> rfl

end Inlet

/-! ### What is planned -/

namespace Plan

open Connection

variable {f : FederateId} {cs : List Connection} {stp : Port → Interval}
  {central own : Plan}

/-- The numbering is the same in both cases. -/
theorem build_cases (f : FederateId) (cs : List Connection)
    (stp : Port → Interval) :
    (∃ e, ∀ m, build f cs m stp = .error e) ∨
      ∃ outlets inlets : List Outlet, ∀ m, ∃ plan, build f cs m stp = .ok plan ∧
        plan.outlets = outlets ∧ plan.inlets.map (·.toOutlet) = inlets := by
  unfold build
  rcases number cs with e | numbered
  · exact .inl ⟨e, fun m => rfl⟩
  · refine .inr ⟨numbered.filter (·.connection.leaves f),
      numbered.filter (·.connection.leadsTo f),
      fun m => ⟨_, rfl, rfl, ?_⟩⟩
    show (List.map _ _).map _ = _
    rw [List.map_map]
    exact List.map_id _

theorem awaited_map_toOutlet (plan : Plan) :
    plan.awaited.map (·.toOutlet)
      = (plan.inlets.map (·.toOutlet)).filter (·.connection.isLogical) := by
  rw [awaited, List.filter_map]
  rfl

/-- The least delays are those of the connections. -/
theorem upstream_eq (plan : Plan) :
    plan.upstream = (plan.awaited.map (·.toOutlet)).foldl
      (fun delays o => leastDelay delays ⟨o, .zero⟩) ∅ := by
  rw [upstream, List.foldl_map]
  rfl

/-- Inlets at the same place of two plans are those of one outlet, if all are. -/
theorem toOutlet_eq_of_mem_zip
    (h : central.inlets.map (·.toOutlet) = own.inlets.map (·.toOutlet))
    {i i' : Inlet} (hi : (i, i') ∈ central.inlets.zip own.inlets) :
    i.toOutlet = i'.toOutlet := by
  have hall : List.Forall₂ (· = ·) (central.inlets.map (·.toOutlet))
      (own.inlets.map (·.toOutlet)) := by
    rw [List.forall₂_eq_eq_eq]
    exact h
  rw [List.forall₂_map_left_iff, List.forall₂_map_right_iff] at hall
  exact (List.forall₂_iff_zip.mp hall).2 hi

/-- What the plans of a federate share, if the first is made for a federation
with a coordinator, and the second for one whose federates advance on their own:
all but offsets and links. Who is linked in the first case is linked in the
second, and besides those that are linked by logical connections and by no
physical one in the same direction. -/
structure SharesAllBut (f : FederateId) (cs : List Connection)
    (central own : Plan) : Prop where
  outlets : central.outlets = own.outlets
  announced : central.announced = own.announced
  inlets : central.inlets.map (·.toOutlet) = own.inlets.map (·.toOutlet)
  awaited : central.awaited.map (·.toOutlet) = own.awaited.map (·.toOutlet)
  neighbors : central.neighbors = own.neighbors
  inbound : ∀ g ∈ central.topology.inbound, g ∈ own.topology.inbound
  outbound : ∀ g ∈ central.topology.outbound, g ∈ own.topology.outbound
  moreInbound : ∀ g, (g ∈ own.topology.inbound ∧ g ∉ central.topology.inbound) ↔
    (∃ c ∈ cs, c.leaves g = true ∧ c.leadsTo f = true ∧ c.isLogical = true) ∧
      ¬ ∃ c ∈ cs, c.leaves g = true ∧ c.leadsTo f = true ∧ c.physical = true
  moreOutbound : ∀ g, (g ∈ own.topology.outbound ∧ g ∉ central.topology.outbound) ↔
    (∃ c ∈ cs, c.leaves f = true ∧ c.leadsTo g = true ∧ c.isLogical = true) ∧
      ¬ ∃ c ∈ cs, c.leaves f = true ∧ c.leadsTo g = true ∧ c.physical = true

/-- Of the connections from one federate to another, if there are any, either
one is physical or all are logical. -/
theorem only_logical_iff (s d : FederateId) (cs : List Connection) :
    ((∃ c ∈ cs, c.leaves s = true ∧ c.leadsTo d = true) ∧
        ¬ ∃ c ∈ cs, c.leaves s = true ∧ c.leadsTo d = true ∧ c.physical = true) ↔
      (∃ c ∈ cs, c.leaves s = true ∧ c.leadsTo d = true ∧ c.isLogical = true) ∧
        ¬ ∃ c ∈ cs, c.leaves s = true ∧ c.leadsTo d = true ∧ c.physical = true := by
  apply and_congr_left
  intro hnone
  constructor
  · rintro ⟨c, hc, hleaves, hleads⟩
    refine ⟨c, hc, hleaves, hleads, ?_⟩
    by_contra hlogical
    exact hnone ⟨c, hc, hleaves, hleads, by simpa using hlogical⟩
  · rintro ⟨c, hc, hleaves, hleads, -⟩
    exact ⟨c, hc, hleaves, hleads⟩

theorem sharesAllBut_of_build
    (hcentral : build f cs .centralized stp = .ok central)
    (hown : build f cs .decentralized stp = .ok own)
    (houtlets : central.outlets = own.outlets)
    (hinlets : central.inlets.map (·.toOutlet) = own.inlets.map (·.toOutlet)) :
    SharesAllBut f cs central own := by
  have hannounced : central.announced = own.announced := by
    rw [announced, announced, houtlets]
  have hawaited :
      central.awaited.map (·.toOutlet) = own.awaited.map (·.toOutlet) := by
    rw [awaited_map_toOutlet, awaited_map_toOutlet, hinlets]
  -- under a coordinator only physical connections make peers
  have hin : ∀ g, g ∈ central.topology.inbound ↔
      ∃ c ∈ cs, c.leaves g = true ∧ c.leadsTo f = true ∧ c.physical = true := by
    intro g
    rw [mem_inbound_iff hcentral]
    simp only [reduceCtorEq, or_false, and_left_comm]
  -- without one all connections do
  have hin' : ∀ g, g ∈ own.topology.inbound ↔
      ∃ c ∈ cs, c.leaves g = true ∧ c.leadsTo f = true := by
    intro g
    rw [mem_inbound_iff hown]
    simp only [or_true, and_true]
    exact exists_congr fun c => and_congr_right fun _ => and_comm
  have hout : ∀ g, g ∈ central.topology.outbound ↔
      ∃ c ∈ cs, c.leaves f = true ∧ c.leadsTo g = true ∧ c.physical = true := by
    intro g
    rw [mem_outbound_iff hcentral]
    simp only [reduceCtorEq, or_false]
  have hout' : ∀ g, g ∈ own.topology.outbound ↔
      ∃ c ∈ cs, c.leaves f = true ∧ c.leadsTo g = true := by
    intro g
    rw [mem_outbound_iff hown]
    simp only [or_true, and_true]
  exact {
    outlets := houtlets
    announced := hannounced
    inlets := hinlets
    awaited := hawaited
    neighbors := by
      rw [neighbors, neighbors, upstream_eq, upstream_eq, downstream,
        downstream, hawaited, hannounced]
    inbound := by
      intro g hg
      obtain ⟨c, hc, hleaves, hleads, -⟩ := (hin g).mp hg
      exact (hin' g).mpr ⟨c, hc, hleaves, hleads⟩
    outbound := by
      intro g hg
      obtain ⟨c, hc, hleaves, hleads, -⟩ := (hout g).mp hg
      exact (hout' g).mpr ⟨c, hc, hleaves, hleads⟩
    moreInbound := by
      intro g
      rw [hin, hin', only_logical_iff]
    moreOutbound := by
      intro g
      rw [hout, hout', only_logical_iff] }

/-- **The coordination changes routes and annotations only.** With a coordinator
and without one there is a plan for the same lists of connections, or none for the
same reason, and the plans share all but offsets and links. If no sending fails,
each outlet reports the same in both cases, and each parcel that the coordinator
relays in the one goes to the federate it is addressed to in the other; what is
untimed goes there in both. And the inlets take every message in alike. -/
theorem coordination_changes_routes_only (f : FederateId) (cs : List Connection)
    (stp : Port → Interval) (ctx : Context μ) {σ σ' : Type} (post : Post σ)
    (post' : Post σ') (s : σ) (s' : σ')
    (hpost : ∀ parcel s, (post parcel s).1 = .ok ())
    (hpost' : ∀ parcel s, (post' parcel s).1 = .ok ()) :
    (∃ e, build f cs .centralized stp = .error e ∧
      build f cs .decentralized stp = .error e) ∨
    ∃ central own, build f cs .centralized stp = .ok central ∧
      build f cs .decentralized stp = .ok own ∧ SharesAllBut f cs central own ∧
      (∀ o ∈ central.outlets, ∀ view,
        (o.send post (ctx.under .centralized) view s).1
          = (o.send post' (ctx.under .decentralized) view s').1) ∧
      (∀ o ∈ central.announced, ∀ view,
        (o.announce post (ctx.under .centralized) view s).1
          = (o.announce post' (ctx.under .decentralized) view s').1) ∧
      (∀ turns : List (Turn μ), (∀ t ∈ turns, t.Of central) →
        List.Forall₂ Parcel.Rerouted
          (turns.foldl (Turn.take post.logging (ctx.under .centralized)) (s, [])).2
          (turns.foldl (Turn.take post'.logging (ctx.under .decentralized))
            (s', [])).2) ∧
      ∀ inlets ∈ central.inlets.zip own.inlets, ∀ message store,
        inlets.1.ReceivesAs inlets.2 ctx message store := by
  rcases build_cases f cs stp with ⟨e, herror⟩ | ⟨outlets, inlets, hbuild⟩
  · exact .inl ⟨e, herror _, herror _⟩
  · obtain ⟨central, hcentral, houtlets, hinlets⟩ := hbuild .centralized
    obtain ⟨own, hown, houtlets', hinlets'⟩ := hbuild .decentralized
    refine .inr ⟨central, own, hcentral, hown, ?_, ?_, ?_, ?_, ?_⟩
    · exact sharesAllBut_of_build hcentral hown (houtlets.trans houtlets'.symm)
        (hinlets.trans hinlets'.symm)
    · intro o _ view
      exact Outlet.send_under hpost hpost' o ctx view s s'
    · intro o ho view
      exact Outlet.announce_under hpost hpost'
        (List.mem_filter.mp ho).2 ctx view s s'
    · intro turns hturns
      rw [Turn.log_run hturns, Turn.log_run hturns, List.nil_append,
        List.nil_append]
      exact Turn.parcels_run_under ctx turns
    · rintro ⟨i, i'⟩ hi message store
      apply Inlet.receivesAs_of_toOutlet_eq
      exact toOutlet_eq_of_mem_zip (hinlets.trans hinlets'.symm) hi

/-- The first federate of the triangle is linked to the second in one case only.
In the other what it sends to that one is relayed. -/
theorem coordination_changes_routes_only_on_triangle :
    ∃ central own, build ⟨0⟩ triangle .centralized (fun _ => .zero) = .ok central ∧
      build ⟨0⟩ triangle .decentralized (fun _ => .zero) = .ok own ∧
      (⟨1⟩ ∈ own.topology.outbound ∧ ⟨1⟩ ∉ central.topology.outbound) ∧
      let ctx : Context Empty := ⟨⟨0⟩, .centralized, .zero, {}⟩
      let post : Post Unit := fun _ s => (.ok (), s)
      let log m :=
        ((triangleTurns central).foldl (Turn.take post.logging (ctx.under m))
          ((), [])).2
      (log .centralized).map (·.destination)
        = [.coordinator, .coordinator, .federate ⟨2⟩] ∧
        (log .decentralized).map (·.destination)
          = [.federate ⟨2⟩, .federate ⟨1⟩, .federate ⟨2⟩] ∧
        List.Forall₂ Parcel.Rerouted (log .centralized) (log .decentralized) := by
  rcases coordination_changes_routes_only ⟨0⟩ triangle (fun _ => .zero)
    ⟨⟨0⟩, .centralized, .zero, {}⟩
    (fun _ s => (.ok (), s) : Post Unit) (fun _ s => (.ok (), s) : Post Unit) () ()
    (fun _ _ => rfl) (fun _ _ => rfl) with
    ⟨e, herror, -⟩ | ⟨central, own, hcentral, hown, hshares, -, -, hruns, -⟩
  · cases herror
  · refine ⟨central, own, hcentral, hown, ?_, ?_, ?_, ?_⟩
    · exact (hshares.moreOutbound ⟨1⟩).mpr (by simp [triangle, isLogical])
    · cases hcentral
      rfl
    · cases hcentral
      rfl
    · apply hruns
      intro t ht
      obtain ⟨o, ho, rfl⟩ := List.mem_map.mp ht
      exact ho

end Plan

end Federation
