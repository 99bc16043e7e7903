/-
Federation/Proofs/Peers.lean

Who is linked to whom, and that these links are enough.

A federate opens a link to each federate that it sends to directly, and expects
one from each that sends to it directly. Both are read off the same list of
connections, so the two ends of a link agree: whoever opens a link is expected
there (`mem_outbound_iff`, `mem_inbound_iff`).

At run time the way of a frame is chosen anew for each frame. It never leads
where there is no link: whatever a federate sends or announces, in whatever
order and at whatever tags, goes straight to a peer that it opens a link to, or
is relayed by the coordinator (`Plan.Routes`). One turn of an outlet posts what
was worked out for it and nothing else (`Turn.log_take`), so this is said of one
parcel first and then of a run of turns.
-/
import Mathlib
import Federation.Link.Joining
import Federation.Proofs.Announcement

namespace Federation

variable {μ : Type}

/-! ### The two ends of a link -/

theorem Connection.isDirect_route_iff {c : Connection} {m : Coordination} :
    (c.route m).isDirect = true ↔ c.physical = true ∨ m = .decentralized := by
  rcases hphysical : c.physical with - | -
  · rw [route_of_logical hphysical]
    cases m <;> simp [Route.isDirect]
  · rw [route_of_physical hphysical]
    simp [Route.isDirect]

namespace Plan

open Connection

section Build

variable {f g : FederateId} {cs : List Connection} {m : Coordination}
  {stp : Port → Interval}
variable {plan : Plan}

theorem isDirect_iff (h : build f cs m stp = .ok plan) {c : Connection} :
    plan.isDirect c = true ↔ c.physical = true ∨ m = .decentralized := by
  rw [isDirect, coordination_of_build h, isDirect_route_iff]

/-- A federate opens links to those that a connection leads to directly. -/
theorem mem_outbound_iff (h : build f cs m stp = .ok plan) :
    g ∈ plan.topology.outbound ↔ ∃ c ∈ cs, c.leaves f = true ∧ c.leadsTo g = true ∧
      (c.physical = true ∨ m = .decentralized) := by
  rw [← exists_iff_of_map_eq_filter (outlets_map_connection h)
    (P := fun c => c.leadsTo g = true ∧ (c.physical = true ∨ m = .decentralized))]
  simp only [topology, Std.ExtTreeSet.mem_ofList, List.contains_iff_mem,
    List.mem_map, List.mem_filter, isDirect_iff h, leadsTo_iff]
  constructor
  · rintro ⟨o, ⟨ho, hdirect⟩, hg⟩
    exact ⟨o, ho, hg, hdirect⟩
  · rintro ⟨o, ho, hg, hdirect⟩
    exact ⟨o, ⟨ho, hdirect⟩, hg⟩

/-- A federate expects links from those that a connection comes from directly. -/
theorem mem_inbound_iff (h : build f cs m stp = .ok plan) :
    g ∈ plan.topology.inbound ↔ ∃ c ∈ cs, c.leadsTo f = true ∧ c.leaves g = true ∧
      (c.physical = true ∨ m = .decentralized) := by
  rw [← exists_iff_of_map_eq_filter (inlets_map_connection h)
    (P := fun c => c.leaves g = true ∧ (c.physical = true ∨ m = .decentralized))]
  simp only [topology, Std.ExtTreeSet.mem_ofList, List.contains_iff_mem,
    List.mem_map, List.mem_filter, isDirect_iff h, leaves_iff]
  constructor
  · rintro ⟨i, ⟨hi, hdirect⟩, hg⟩
    exact ⟨i, hi, hg, hdirect⟩
  · rintro ⟨i, hi, hg, hdirect⟩
    exact ⟨i, ⟨hi, hdirect⟩, hg⟩

end Build

end Plan

/-! ### What an outlet posts -/

/-- Sends as `post` does, and keeps a list of all that it was to send, whatever
became of it. -/
def Post.logging {σ : Type} (post : Post σ) : Post (σ × List Parcel) :=
  fun parcel s =>
  ((post parcel s.1).1, (post parcel s.1).2, s.2 ++ [parcel])

namespace Outlet

variable {σ : Type} {o : Outlet} {ctx : Context μ} {view : PortView μ}
  {m : Coordination}
variable {payload : ByteArray} {parcel : Parcel}

/-- Whether the parcel is one for the receiver of the outlet, on the way of its
connection. -/
structure Posts (o : Outlet) (m : Coordination) (parcel : Parcel) : Prop where
  destination : parcel.destination = o.destination m
  addressee : parcel.frame.addressee? = some o.receiver
  relayed : parcel.destination = .coordinator → parcel.frame.isRelayed = true

theorem send_logging (post : Post σ) (s : σ × List Parcel) :
    (o.send post.logging ctx view s).2.2 = s.2 ++ o.messages ctx view := by
  rw [send, messages]
  rcases o.message? ctx view with e | - | parcel
  · exact (List.append_nil _).symm
  · exact (List.append_nil _).symm
  · rfl

theorem announce_logging (hlogical : o.connection.isLogical = true) (post : Post σ)
    (s : σ × List Parcel) :
    (o.announce post.logging ctx view s).2.2 = s.2 ++ o.notices ctx view := by
  rw [announce, notices, if_pos hlogical]
  rcases o.notice? ctx view with e | - | parcel
  · exact (List.append_nil _).symm
  · exact (List.append_nil _).symm
  · simp only [Post.logging]
    rcases (post parcel s.1).1 with e | u <;> rfl

theorem destination_eq_coordinator_iff :
    o.destination m = .coordinator ↔ (o.connection.route m).isDirect = false := by
  rw [destination]
  split
  · next hdirect => simp [hdirect]
  · next hrelayed => simpa using hrelayed

/-- A frame with a payload is for the receiver, and if it does not go there
directly it is relayed data. -/
theorem addressee_of_frame {frame : Frame}
    (h : o.frame m view payload = .ok frame) :
    frame.addressee? = some o.receiver ∧
      ((o.connection.route m).isDirect = false → frame.isRelayed = true) := by
  unfold Outlet.frame at h
  generalize o.connection.route m = route at h ⊢
  cases route with
  | untimedDirect =>
    cases h
    exact ⟨rfl, nofun⟩
  | taggedDirect =>
    rcases htag : o.arrivalTag view with e | arrival
    · rw [htag] at h
      cases h
    · rw [htag] at h
      cases h
      exact ⟨rfl, nofun⟩
  | taggedViaCoordinator =>
    rcases htag : o.arrivalTag view with e | arrival
    · rw [htag] at h
      cases h
    · rw [htag] at h
      cases h
      exact ⟨rfl, fun _ => rfl⟩

theorem posts_of_message (h : parcel ∈ o.messages ctx view) :
    o.Posts ctx.coordination parcel := by
  rw [messages] at h
  rcases hmessage : o.message? ctx view with e | parcel?
  · rw [hmessage] at h
    cases h
  · rw [hmessage] at h
    rcases message?_ok hmessage with
      ⟨-, rfl⟩ | ⟨value, payload, frame, -, -, hframe, rfl⟩
    · cases h
    · obtain rfl := List.mem_singleton.mp h
      obtain ⟨haddressee, hrelayed⟩ := addressee_of_frame hframe
      exact ⟨rfl, haddressee,
        fun hc => hrelayed (destination_eq_coordinator_iff.mp hc)⟩

theorem posts_of_notice (h : parcel ∈ o.notices ctx view) :
    o.Posts ctx.coordination parcel := by
  rw [notices] at h
  split at h
  · rcases hnotice : o.notice? ctx view with e | parcel?
    · rw [hnotice] at h
      cases h
    · rw [hnotice] at h
      rcases notice?_ok hnotice with ⟨-, rfl⟩ | ⟨arrival, -, -, rfl⟩
      · cases h
      · obtain rfl := List.mem_singleton.mp h
        exact ⟨rfl, rfl, fun _ => rfl⟩
  · cases h

end Outlet

/-! ### A run of turns -/

/-- A turn of an outlet at a tag: it sends its value, or it announces its
absence. -/
inductive Turn (μ : Type) where
  | send (o : Outlet) (view : PortView μ)
  | announce (o : Outlet) (view : PortView μ)

namespace Turn

variable {σ : Type} {plan : Plan} {ctx : Context μ} {parcel : Parcel}

/-- Whether it is the plan that gives the outlet its turn: all outlets send, and
the logical ones announce. -/
def Of (plan : Plan) : Turn μ → Prop
  | send o _ => o ∈ plan.outlets
  | announce o _ => o ∈ plan.announced

/-- What is left behind by the turn. -/
def take (post : Post σ) (ctx : Context μ) (s : σ) : Turn μ → σ
  | send o view => (o.send post ctx view s).2
  | announce o view => (o.announce post ctx view s).2

/-- The parcels of the turn. -/
def parcels (ctx : Context μ) : Turn μ → List Parcel
  | send o view => o.messages ctx view
  | announce o view => o.notices ctx view

/-- A turn posts its parcels, and no others. -/
theorem log_take {t : Turn μ} (h : t.Of plan) (post : Post σ)
    (s : σ × List Parcel) :
    (t.take post.logging ctx s).2 = s.2 ++ t.parcels ctx := by
  cases t with
  | send o view => exact Outlet.send_logging post s
  | announce o view => exact Outlet.announce_logging (List.mem_filter.mp h).2 post s

/-- A run of turns posts the parcels of the turns, and no others. -/
theorem log_run {turns : List (Turn μ)} (h : ∀ t ∈ turns, t.Of plan) (post : Post σ)
    (s : σ × List Parcel) :
    (turns.foldl (take post.logging ctx) s).2
      = s.2 ++ turns.flatMap (parcels ctx) := by
  induction turns generalizing s with
  | nil => exact (List.append_nil _).symm
  | cons t turns ih =>
    rw [List.forall_mem_cons] at h
    rw [List.foldl_cons, ih h.2, log_take h.1, List.flatMap_cons, List.append_assoc]

/-- The parcels of a turn are posted by an outlet of the plan. -/
theorem posts_of_mem_parcels {t : Turn μ} (h : t.Of plan)
    (hparcel : parcel ∈ t.parcels ctx) :
    ∃ o ∈ plan.outlets, o.Posts ctx.coordination parcel := by
  cases t with
  | send o view => exact ⟨o, h, Outlet.posts_of_message hparcel⟩
  | announce o view =>
    exact ⟨o, (List.mem_filter.mp h).1, Outlet.posts_of_notice hparcel⟩

end Turn

namespace Plan

open Connection

variable {f g : FederateId} {cs : List Connection} {m : Coordination}
  {stp : Port → Interval}
variable {plan : Plan} {parcel : Parcel}

/-- Whether the links of the federate are enough for the parcel: it goes
straight to the federate that the frame names, and there is a link to that; or
it is data that the coordinator relays, and it goes there. -/
def Routes (plan : Plan) (parcel : Parcel) : Prop :=
  match parcel.destination with
  | .federate g => parcel.frame.addressee? = some g ∧ g ∈ plan.topology.outbound
  | .coordinator => parcel.frame.isRelayed = true ∧ plan.coordination = .centralized

theorem routes_of_posts (h : build f cs m stp = .ok plan) {o : Outlet}
    (ho : o ∈ plan.outlets) (hposts : o.Posts m parcel) : plan.Routes parcel := by
  by_cases hdirect : (o.connection.route m).isDirect = true
  · have hdestination : parcel.destination = .federate o.receiver :=
      hposts.destination.trans (if_pos hdirect)
    rw [Routes, hdestination]
    refine ⟨hposts.addressee, (mem_outbound_iff h).mpr ?_⟩
    rw [← exists_iff_of_map_eq_filter (outlets_map_connection h)
      (P := fun c =>
        c.leadsTo o.receiver = true ∧ (c.physical = true ∨ m = .decentralized))]
    exact ⟨o, ho, leadsTo_iff.mpr rfl, isDirect_route_iff.mp hdirect⟩
  · have hdestination : parcel.destination = .coordinator :=
      hposts.destination.trans (if_neg hdirect)
    rw [isDirect_route_iff, not_or] at hdirect
    rw [Routes, hdestination, coordination_of_build h]
    refine ⟨hposts.relayed hdestination, ?_⟩
    -- where federates advance on their own, every connection is direct
    cases m with
    | centralized => rfl
    | decentralized => exact absurd rfl hdirect.2

/-- **Links at both ends, and enough of them.** There is a connection that leads
from `f` to `g` directly, by being physical or because federates advance on
their own, exactly if `f` opens a link to `g`, and exactly if `g` expects one
from `f`. No federate opens a link to itself, or expects one. And whatever turns
the outlets of `f` have, at whatever tags, and whatever becomes of what they
post: each parcel goes to a federate that `f` opens a link to and that the frame
names, or is data that the coordinator relays. -/
theorem peers_symmetric_and_sufficient (f g : FederateId) (cs : List Connection)
    (m : Coordination) (stp stp' : Port → Interval) (ctx : Context μ)
    (turns : List (Turn μ)) {σ : Type} (post : Post σ) (s : σ) {plan peer : Plan}
    (hf : build f cs m stp = .ok plan) (hg : build g cs m stp' = .ok peer)
    (hctx : ctx.coordination = m) (hturns : ∀ t ∈ turns, t.Of plan) :
    (g ∈ plan.topology.outbound ↔
      ∃ c ∈ cs, c.leaves f = true ∧ c.leadsTo g = true ∧
        (c.physical = true ∨ m = .decentralized)) ∧
    (g ∈ plan.topology.outbound ↔ f ∈ peer.topology.inbound) ∧
    f ∉ plan.topology.outbound ∧ f ∉ plan.topology.inbound ∧
    ∀ parcel ∈ (turns.foldl (Turn.take post.logging ctx) (s, [])).2,
      plan.Routes parcel := by
  refine ⟨mem_outbound_iff hf, ?_, ?_, ?_, ?_⟩
  · rw [mem_outbound_iff hf, mem_inbound_iff hg]
    simp only [and_left_comm]
  · rw [mem_outbound_iff hf]
    rintro ⟨c, hc, hleaves, hleads, -⟩
    exact not_leadsTo_of_leaves hf hc hleaves hleads
  · rw [mem_inbound_iff hf]
    rintro ⟨c, hc, hleads, hleaves, -⟩
    exact not_leadsTo_of_leaves hf hc hleaves hleads
  · intro parcel hparcel
    rw [Turn.log_run hturns, List.nil_append, List.mem_flatMap] at hparcel
    obtain ⟨t, ht, hparcel⟩ := hparcel
    obtain ⟨o, ho, hposts⟩ := Turn.posts_of_mem_parcels (hturns t ht) hparcel
    rw [hctx] at hposts
    exact routes_of_posts hf ho hposts

/-- All outlets of the first federate of the triangle send, where all of its
ports have a value. -/
def triangleTurns (plan : Plan) : List (Turn Empty) :=
  plan.outlets.map fun o =>
    .send o ⟨⟨.epoch, 3⟩, fun _ => true, fun _ => some (.text "a")⟩

theorem peers_symmetric_and_sufficient_on_triangle :
    ∃ plan peer, build ⟨0⟩ triangle .centralized (fun _ => .zero) = .ok plan ∧
      build ⟨2⟩ triangle .centralized (fun _ => .zero) = .ok peer ∧
      ⟨2⟩ ∈ plan.topology.outbound ∧ ⟨0⟩ ∈ peer.topology.inbound ∧
      let log := ((triangleTurns plan).foldl
        (Turn.take (Post.logging Outbox.post) ⟨⟨0⟩, .centralized, .zero, {}⟩)
          ({}, [])).2
      log.map (·.destination) = [.coordinator, .coordinator, .federate ⟨2⟩] ∧
        ∀ parcel ∈ log, plan.Routes parcel := by
  obtain ⟨plan, hplan⟩ :
      ∃ plan, build ⟨0⟩ triangle .centralized (fun _ => .zero) = .ok plan :=
    ⟨_, rfl⟩
  have hturns : ∀ t ∈ triangleTurns plan, t.Of plan := by
    intro t ht
    obtain ⟨o, ho, rfl⟩ := List.mem_map.mp ht
    exact ho
  obtain ⟨hout, hin, -, -, hroutes⟩ :=
    peers_symmetric_and_sufficient ⟨0⟩ ⟨2⟩ triangle .centralized
    (fun _ => .zero) (fun _ => .zero) ⟨⟨0⟩, .centralized, .zero, {}⟩
    (triangleTurns plan)
    Outbox.post {} hplan rfl rfl hturns
  have hlinked : ⟨2⟩ ∈ plan.topology.outbound := hout.mpr (by simp [triangle])
  refine ⟨plan, _, hplan, rfl, hlinked, hin.mp hlinked, ?_, hroutes⟩
  cases hplan
  rfl

end Plan

end Federation
