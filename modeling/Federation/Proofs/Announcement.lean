/-
Federation/Proofs/Announcement.lean

Every logical output is announced exactly once at a tag.

At each tag a federate goes through its outlets twice: all of them send, then
the logical ones announce their absence. What leaves of one outlet in both turns
together is told by `Outlet.Emits`:

* of a logical outlet one frame, a message if its port is present and a notice
  if it is not;
* of a physical outlet an untimed message if its port is present, and nothing if
  it is not.

The main result is that these are the parcels that leave, each as often as there
are outlets to emit it, and no others. It holds as far as nothing goes wrong:
each value has a payload, each tag can be delayed (`Connection.Ready`), and no
sending fails. As the two passes go one after the other, what leaves is the
emission of the outlets in another order.
-/
import Mathlib
import Federation.Proofs.Mirror

namespace Federation

variable {μ : Type}

/-- Whether nothing is in the way of a connection at a tag: what is shown of its
port is consistent, its value has a payload, and if it is logical its delay
leads to a tag. -/
structure Connection.Ready (c : Connection) (ctx : Context μ)
    (view : PortView μ) : Prop where
  consistent : view.Consistent c.source.port
  encodes : ∀ value, view.value? c.source.port = some value →
    ∃ payload, ctx.codec.encode c.serializer c.valueType value = .ok payload
  delays : c.isLogical = true → ∃ arrival, view.tag.delayed c.delay = .ok arrival

/-! ### Parcels that leave in turn -/

section InTurn

variable {α β σ : Type} {post : Post σ}

@[simp] theorem inTurn_append (f : α → σ → β × σ) (as bs : List α) (s : σ) :
    (inTurn f (as ++ bs) s).2 = (inTurn f bs (inTurn f as s).2).2 := by
  induction as generalizing s with
  | nil => rfl
  | cons a as ih => exact ih (f a s).2

/-- If each turn is to post some parcels, all turns are to post all of them. -/
theorem inTurn_eq_of_posts {f : α → σ → β × σ} {result : α → β}
    {parcels : α → List Parcel} {as : List α}
    (h : ∀ a ∈ as, ∀ s, f a s = (result a, (inTurn post (parcels a) s).2))
    (s : σ) :
    inTurn f as s = (as.map result, (inTurn post (as.flatMap parcels) s).2) := by
  induction as generalizing s with
  | nil => rfl
  | cons a as ih =>
    rw [List.forall_mem_cons] at h
    rw [inTurn_cons, h.1 s, ih h.2, List.flatMap_cons, inTurn_append]
    rfl

end InTurn

/-! ### What leaves of one outlet -/

namespace Outlet

variable {σ : Type} {o : Outlet} {ctx : Context μ} {view : PortView μ}

/-- What is to leave of an outlet at a tag, in both of its turns together. -/
inductive Emits (o : Outlet) (ctx : Context μ) (view : PortView μ) :
    List Parcel → Prop
  | message {value payload arrival} (logical : o.connection.isLogical = true)
      (shown : view.value? o.connection.source.port = some value)
      (encoded : ctx.codec.encode o.connection.serializer o.connection.valueType
        value = .ok payload)
      (delayed : view.tag.delayed o.connection.delay = .ok arrival) :
      Emits o ctx view
        [⟨o.destination ctx.coordination,
          o.messageFrame ctx.coordination arrival payload⟩]
  | notice {arrival} (logical : o.connection.isLogical = true)
      (shown : view.value? o.connection.source.port = none)
      (delayed : view.tag.delayed o.connection.delay = .ok arrival) :
      Emits o ctx view [⟨o.destination ctx.coordination,
        .portAbsent ⟨o.port, o.receiver, arrival⟩⟩]
  | untimed {value payload} (physical : o.connection.physical = true)
      (shown : view.value? o.connection.source.port = some value)
      (encoded :
        ctx.codec.encode o.connection.serializer o.connection.valueType value
          = .ok payload) :
      Emits o ctx view
        [⟨.federate o.receiver, .untimedMessage ⟨o.port, o.receiver, payload⟩⟩]
  | nothing (physical : o.connection.physical = true)
      (shown : view.value? o.connection.source.port = none) : Emits o ctx view []

/-- Whatever a logical outlet emits at a tag, it is one frame, to the same
destination and with the same port id, federate and tag. -/
theorem Emits.marks {parcels : List Parcel} {arrival : Tag}
    (h : o.Emits ctx view parcels) (hlogical : o.connection.isLogical = true)
    (harrival : view.tag.delayed o.connection.delay = .ok arrival) :
    ∃ frame, parcels = [⟨o.destination ctx.coordination, frame⟩] ∧
      frame.Marks o.port o.receiver arrival
        (view.value? o.connection.source.port).isSome := by
  have hphysical : o.connection.physical = false :=
    Connection.isLogical_iff.mp hlogical
  cases h with
  | message _ hvalue _ hdelayed =>
    cases hdelayed.symm.trans harrival
    rw [hvalue]
    exact ⟨_, rfl, messageFrame_marks hphysical⟩
  | notice _ hvalue hdelayed =>
    cases hdelayed.symm.trans harrival
    rw [hvalue]
    exact ⟨_, rfl, .portAbsent⟩
  | untimed physical => cases hphysical.symm.trans physical
  | nothing physical => cases hphysical.symm.trans physical

/-- The parcels that the outlet sends in its first turn. -/
def messages (o : Outlet) (ctx : Context μ) (view : PortView μ) : List Parcel :=
  (o.message? ctx view).toOption.join.toList

/-- The parcels that the outlet announces in its second turn, which a physical
one does not have. -/
def notices (o : Outlet) (ctx : Context μ) (view : PortView μ) : List Parcel :=
  if o.connection.isLogical then (o.notice? ctx view).toOption.join.toList else []

theorem send_of_message? {post : Post σ}
    (hpost : ∀ parcel s, (post parcel s).1 = .ok ()) {parcel? : Option Parcel}
    (h : o.message? ctx view = .ok parcel?) (s : σ) :
    o.send post ctx view s
      = (.ok (if parcel?.isSome then .sent else .notPresent),
          (inTurn post parcel?.toList s).2) := by
  rw [send, h]
  rcases parcel? with - | parcel
  · rfl
  · change (o.settle (post parcel s).1, (post parcel s).2) = _
    rw [hpost]
    rfl

theorem announce_of_notice? {post : Post σ}
    (hpost : ∀ parcel s, (post parcel s).1 = .ok ()) {parcel? : Option Parcel}
    (h : o.notice? ctx view = .ok parcel?) (s : σ) :
    o.announce post ctx view s
      = (.ok parcel?.isSome, (inTurn post parcel?.toList s).2) := by
  rw [announce, h]
  rcases parcel? with - | parcel
  · rfl
  · have hok := hpost parcel s
    rcases hresult : post parcel s with ⟨result, s'⟩
    rw [hresult] at hok
    obtain rfl : result = .ok () := hok
    simp [inTurn, hresult]

section Ready

variable (h : o.connection.Ready ctx view)
include h

/-- All that an outlet which is ready can have: either its port has no value,
and if it is logical it has a notice; or its port has a value, and it has a
message. -/
theorem cases_of_ready :
    (view.value? o.connection.source.port = none ∧ o.message? ctx view = .ok none ∧
      (o.connection.isLogical = true → ∃ arrival,
        view.tag.delayed o.connection.delay = .ok arrival ∧
        o.notice? ctx view = .ok (some
          ⟨o.destination ctx.coordination,
            .portAbsent ⟨o.port, o.receiver, arrival⟩⟩))) ∨
    (∃ value payload arrival, view.value? o.connection.source.port = some value ∧
      ctx.codec.encode o.connection.serializer o.connection.valueType value
        = .ok payload ∧
      (o.connection.isLogical = true →
        view.tag.delayed o.connection.delay = .ok arrival) ∧
      o.message? ctx view = .ok (some
        ⟨o.destination ctx.coordination,
          o.messageFrame ctx.coordination arrival payload⟩) ∧
      o.notice? ctx view = .ok none) := by
  have hshown : o.value? view = view.value? o.connection.source.port :=
    value?_of_consistent h.consistent
  have hpresent : view.isPresent o.connection.source.port
      = (view.value? o.connection.source.port).isSome := h.consistent
  rcases hvalue : view.value? o.connection.source.port with - | value
  · rw [hvalue] at hshown hpresent
    refine .inl ⟨rfl, by rw [message?, hshown], fun hlogical => ?_⟩
    obtain ⟨arrival, harrival⟩ := h.delays hlogical
    exact ⟨arrival, harrival, notice?_eq hpresent harrival⟩
  · rw [hvalue] at hshown hpresent
    obtain ⟨payload, hpayload⟩ := h.encodes value hvalue
    have hdelayed : ∃ arrival, o.connection.isLogical = true →
        view.tag.delayed o.connection.delay = .ok arrival := by
      by_cases hlogical : o.connection.isLogical = true
      · obtain ⟨arrival, harrival⟩ := h.delays hlogical
        exact ⟨arrival, fun _ => harrival⟩
      · -- a physical connection has no tag to delay, so any will do
        exact ⟨view.tag, fun h => absurd h hlogical⟩
    obtain ⟨arrival, harrival⟩ := hdelayed
    refine .inr ⟨value, payload, arrival, rfl, hpayload, harrival,
      message?_eq hshown hpayload harrival, ?_⟩
    rw [notice?, hpresent]
    rfl

theorem emits_of_ready :
    o.Emits ctx view (o.messages ctx view ++ o.notices ctx view) := by
  rcases hlogical : o.connection.isLogical with - | -
  · -- a physical connection has nothing to announce
    have hphysical : o.connection.physical = true :=
      Connection.isLogical_eq_false_iff.mp hlogical
    have hnotices : o.notices ctx view = [] := by
      rw [notices, hlogical]
      rfl
    rw [hnotices, List.append_nil, messages]
    rcases cases_of_ready h with ⟨hvalue, hmessage, -⟩ |
      ⟨value, payload, arrival, hvalue, hpayload, -, hmessage, -⟩
    · rw [hmessage]
      exact .nothing hphysical hvalue
    · have hdestination :
          o.destination ctx.coordination = .federate o.receiver := by
        rw [destination, Connection.route_of_physical hphysical]
        rfl
      rw [hmessage, hdestination, messageFrame_physical hphysical]
      exact .untimed hphysical hvalue hpayload
  · -- a logical one has a notice exactly if it has no message
    rw [messages, notices, if_pos hlogical]
    rcases cases_of_ready h with ⟨hvalue, hmessage, hnotice⟩ |
      ⟨value, payload, arrival, hvalue, hpayload, harrival, hmessage, hnotice⟩
    · obtain ⟨arrival, harrival, hnotice⟩ := hnotice hlogical
      rw [hmessage, hnotice]
      exact .notice hlogical hvalue harrival
    · rw [hmessage, hnotice]
      exact .message hlogical hvalue hpayload (harrival hlogical)

variable {post : Post σ} (hpost : ∀ parcel s, (post parcel s).1 = .ok ())
include hpost

theorem send_of_ready (s : σ) :
    o.send post ctx view s
      = (.ok (if (view.value? o.connection.source.port).isSome then .sent
        else .notPresent),
          (inTurn post (o.messages ctx view) s).2) := by
  rw [messages]
  rcases cases_of_ready h with ⟨hvalue, hmessage, -⟩ |
    ⟨value, payload, arrival, hvalue, -, -, hmessage, -⟩
  · rw [hvalue, hmessage]
    exact send_of_message? hpost hmessage s
  · rw [hvalue, hmessage]
    exact send_of_message? hpost hmessage s

theorem announce_of_ready (hlogical : o.connection.isLogical = true) (s : σ) :
    o.announce post ctx view s
      = (.ok (view.value? o.connection.source.port).isNone,
          (inTurn post (o.notices ctx view) s).2) := by
  rw [notices, if_pos hlogical]
  rcases cases_of_ready h with ⟨hvalue, -, hnotice⟩ |
    ⟨value, payload, arrival, hvalue, -, -, -, hnotice⟩
  · obtain ⟨arrival, -, hnotice⟩ := hnotice hlogical
    rw [hvalue, hnotice]
    exact announce_of_notice? hpost hnotice s
  · rw [hvalue, hnotice]
    exact announce_of_notice? hpost hnotice s

end Ready

end Outlet

/-! ### What leaves of all outlets -/

namespace Plan

open Connection

variable {plan : Plan} {ctx : Context μ} {view : PortView μ}

/-- The parcels that leave a federate at a tag, in order: first the messages,
then the notices. -/
def leaving (plan : Plan) (ctx : Context μ) (view : PortView μ) : List Parcel :=
  plan.outlets.flatMap (·.messages ctx view) ++
    plan.announced.flatMap (·.notices ctx view)

theorem notices_announced :
    plan.announced.flatMap (·.notices ctx view)
      = plan.outlets.flatMap (·.notices ctx view) := by
  rw [announced]
  induction plan.outlets with
  | nil => rfl
  | cons o outlets ih =>
    rw [List.flatMap_cons, ← ih]
    rcases hlogical : o.connection.isLogical with - | -
    · have hnone : o.notices ctx view = [] := by
        rw [Outlet.notices, hlogical]
        rfl
      rw [List.filter_cons_of_neg (by simp [hlogical]), hnone, List.nil_append]
    · rw [List.filter_cons_of_pos (by simpa using hlogical), List.flatMap_cons]

theorem leaving_perm :
    (plan.leaving ctx view).Perm
      (plan.outlets.map fun o =>
        o.messages ctx view ++ o.notices ctx view).flatten := by
  rw [leaving, notices_announced]
  exact List.flatMap_append_perm plan.outlets _ _

section AllReady

variable {σ : Type} {post : Post σ}
  (hready : ∀ o ∈ plan.outlets, o.connection.Ready ctx view)
  (hpost : ∀ parcel s, (post parcel s).1 = .ok ())
include hready hpost

theorem sendAll_of_ready (s : σ) :
    plan.sendAll post ctx view s
      = (plan.outlets.map (fun o => .ok
          (if (view.value? o.connection.source.port).isSome then .sent
            else .notPresent)),
        (inTurn post (plan.outlets.flatMap (·.messages ctx view)) s).2) :=
  inTurn_eq_of_posts (fun o ho s => Outlet.send_of_ready (hready o ho) hpost s) s

theorem announceAll_of_ready (s : σ) :
    plan.announceAll post ctx view s
      = (plan.announced.map
        (fun o => .ok (view.value? o.connection.source.port).isNone),
        (inTurn post (plan.announced.flatMap (·.notices ctx view)) s).2) := by
  refine inTurn_eq_of_posts (fun o ho s => ?_) s
  obtain ⟨hmem, hlogical⟩ := List.mem_filter.mp ho
  exact Outlet.announce_of_ready (hready o hmem) hpost hlogical s

end AllReady

/-- **Every logical output is announced exactly once.** If at a tag all
connections that leave a federate are ready, its outlets, which are these
connections, each emit what they are to emit, and what leaves is this and
nothing else: as long as no sending fails, all turns succeed, and they post the
parcels that were emitted, in another order. Of one logical outlet, whatever its
port shows at this tag, there is one frame, which goes to one destination with
one port id, federate and tag. -/
theorem announced_exactly_once (f : FederateId) (cs : List Connection)
    (m : Coordination) (stp : Port → Interval) (ctx : Context μ)
    (view : PortView μ) {plan : Plan} (hbuild : build f cs m stp = .ok plan)
    (hready : ∀ c ∈ cs, c.leaves f = true → c.Ready ctx view) :
    plan.outlets.map (·.connection) = cs.filter (leaves f) ∧
    (∃ parcels emitted,
      List.Forall₂ (fun o ps => o.Emits ctx view ps) plan.outlets emitted ∧
      parcels.Perm emitted.flatten ∧
      ∀ (σ : Type) (post : Post σ) (s : σ),
        (∀ parcel s, (post parcel s).1 = .ok ()) →
        let (sent, s') := plan.sendAll post ctx view s
        let (announced, s'') := plan.announceAll post ctx view s'
        sent = plan.outlets.map (fun o => .ok
          (if (view.value? o.connection.source.port).isSome then .sent
            else .notPresent)) ∧
        announced = plan.announced.map (fun o => .ok
          (view.value? o.connection.source.port).isNone) ∧
        s'' = (inTurn post parcels s).2) ∧
    ∀ o ∈ plan.outlets, o.connection.isLogical = true → ∃ arrival,
      view.tag.delayed o.connection.delay = .ok arrival ∧
      ∀ view' parcels, view'.tag = view.tag → o.Emits ctx view' parcels → ∃ frame,
        parcels = [⟨o.destination ctx.coordination, frame⟩] ∧
        frame.Marks o.port o.receiver arrival
          (view'.value? o.connection.source.port).isSome := by
  have houtlets := outlets_map_connection hbuild
  have hready' : ∀ o ∈ plan.outlets, o.connection.Ready ctx view := by
    intro o ho
    have hmem : o.connection ∈ cs.filter (leaves f) := by
      rw [← houtlets]
      exact List.mem_map_of_mem ho
    exact hready o.connection (List.mem_filter.mp hmem).1
      (List.mem_filter.mp hmem).2
  refine ⟨houtlets, ⟨plan.leaving ctx view, _, ?_, leaving_perm, ?_⟩, ?_⟩
  · rw [List.forall₂_map_right_iff, List.forall₂_same]
    exact fun o ho => Outlet.emits_of_ready (hready' o ho)
  · -- first all values go, and then all notices
    intro σ post s hpost
    simp only [sendAll_of_ready hready' hpost,
      announceAll_of_ready hready' hpost, leaving, inTurn_append, and_self]
  · intro o ho hlogical
    obtain ⟨arrival, harrival⟩ := (hready' o ho).delays hlogical
    refine ⟨arrival, harrival, fun view' parcels htag hemits => ?_⟩
    exact hemits.marks hlogical (htag ▸ harrival)

/-- What the first federate of the triangle shows at a tag: a value for its
logical connections, and none for the physical one. -/
def triangleView : PortView Empty :=
  ⟨⟨.epoch, 3⟩, fun port => port.name = "first.out",
    fun port => if port.name = "first.out" then some (.text "a") else none⟩

theorem announced_exactly_once_on_triangle :
    ∃ plan, build ⟨0⟩ triangle .decentralized (fun _ => .zero) = .ok plan ∧
      plan.outlets.length = 3 ∧
      ∃ (parcels : List Parcel) (emitted : List (List Parcel)),
        List.Forall₂
          (fun o ps => o.Emits ⟨⟨0⟩, .decentralized, .zero, {}⟩ triangleView ps)
          plan.outlets emitted ∧
        parcels.Perm emitted.flatten := by
  have hready : ∀ c ∈ triangle, c.leaves ⟨0⟩ = true →
      c.Ready ⟨⟨0⟩, .decentralized, .zero, {}⟩ triangleView := by
    intro c hc _
    simp only [triangle, List.mem_cons, List.not_mem_nil, or_false] at hc
    rcases hc with rfl | rfl | rfl | rfl
    · exact ⟨rfl, fun value hvalue => by cases hvalue; exact ⟨_, rfl⟩,
        fun _ => ⟨_, rfl⟩⟩
    · exact ⟨rfl, nofun, fun _ => ⟨_, rfl⟩⟩
    · exact ⟨rfl, fun value hvalue => by cases hvalue; exact ⟨_, rfl⟩,
        fun _ => ⟨_, rfl⟩⟩
    · exact ⟨rfl, nofun, nofun⟩
  obtain ⟨-, ⟨parcels, emitted, hemits, hperm, -⟩, -⟩ :=
    announced_exactly_once ⟨0⟩ triangle .decentralized (fun _ => .zero)
      ⟨⟨0⟩, .decentralized, .zero, {}⟩ triangleView rfl hready
  exact ⟨_, rfl, rfl, parcels, emitted, hemits, hperm⟩

end Plan

end Federation
