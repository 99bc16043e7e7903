/-
Federation/Proofs/Agreement.lean

A sender and a receiver agree on the port ids.

The plan of a federate is built without a word from the others. Still all plans
of a federation fit together: they fail together, with the same error, and where
they do not, the port id that a sender writes into its frames is the action of
the very connection at the receiver. Both sides number the same list, so each
port id is the rank of its connection (`ordinal_portAt_of_build`), and the rank
is also the place at which the receiver keeps it.

One list may hold the same connection twice, so connections are told apart by
their places here: `outletOf` and `inletOf` are what the two plans hold for the
connection at a place.
-/
import Mathlib
import Federation.Output
import Federation.Proofs.Numbering

namespace Federation.Plan

open Connection

/-- What the plan holds to send on the connection at place `k`, which leaves its
federate. -/
def outletOf (plan : Plan) (cs : List Connection) (k : Nat) : Option Outlet :=
  plan.outlets[rank (leaves plan.federate) cs k]?

/-- What the plan holds to receive on the connection at place `k`, which leads
to its federate. -/
def inletOf (plan : Plan) (cs : List Connection) (k : Nat) : Option Inlet :=
  plan.inlets[rank (leadsTo plan.federate) cs k]?

/-- What the plans of a sender and of a receiver have in common. -/
structure Agree (cs : List Connection) (sender receiver : Plan) : Prop where
  /-- The receiver has one inlet for each connection that leads to it, in order. -/
  inlets : receiver.inlets.map (·.connection)
    = cs.filter (leadsTo receiver.federate)
  /-- The actions are counted from nought. -/
  actions : ∀ (n : Nat) (i : Inlet),
    receiver.inlets[n]? = some i → i.port.ordinal = n
  /-- The port id of an outlet leads to the inlet of the same connection. -/
  outlets : ∀ (n : Nat) (o : Outlet),
    sender.outlets[n]? = some o → o.receiver = receiver.federate →
    ∃ (k : Nat) (i : Inlet),
      cs[k]? = some o.connection ∧ o.connection.leaves sender.federate = true ∧
      rank (leaves sender.federate) cs k = n ∧
      receiver.inlet? o.port = some i ∧ receiver.inletOf cs k = some i ∧
      i.connection = o.connection

section Build

variable {f : FederateId} {cs : List Connection} {m : Coordination}
  {stp : Port → Interval}
variable {plan : Plan} {k : Nat} {c : Connection}

theorem outletOf_entry (h : build f cs m stp = .ok plan) (hk : cs[k]? = some c)
    (hc : c.leaves f = true) : plan.outletOf cs k = some ⟨c, portAt cs k c⟩ := by
  rw [outletOf, federate_of_build h, outlet_of_entry h hk hc]

theorem inletOf_entry (h : build f cs m stp = .ok plan) (hk : cs[k]? = some c)
    (hc : c.leadsTo f = true) :
    plan.inletOf cs k
      = some ⟨⟨c, portAt cs k c⟩, maxStp m stp c.destination.port⟩ := by
  rw [inletOf, federate_of_build h, inlet_of_entry h hk hc]

/-- The port id of a connection is the action of its inlet. -/
theorem inlet?_portAt (h : build f cs m stp = .ok plan) (hk : cs[k]? = some c)
    (hc : c.leadsTo f = true) :
    plan.inlet? (portAt cs k c) = plan.inletOf cs k := by
  have hd : c.destination.federate = f := by simpa using hc
  rw [inlet?, ordinal_portAt_of_build h hk, inletOf, federate_of_build h, hd]

/-- Two connections that lead to one federate have different port ids. -/
theorem portAt_ne (h : build f cs m stp = .ok plan) {j : Nat} {c' : Connection}
    (hj : cs[j]? = some c) (hk : cs[k]? = some c')
    (hd : c.destination.federate = c'.destination.federate) (hjk : j ≠ k) :
    portAt cs j c ≠ portAt cs k c' := by
  intro heq
  have hrank := congrArg PortId.ordinal heq
  rw [ordinal_portAt_of_build h hj, ordinal_portAt_of_build h hk, hd] at hrank
  rcases Nat.lt_or_gt_of_ne hjk with hlt | hlt
  · exact absurd hrank (rank_lt_rank hlt hj (by simp [hd])).ne
  · exact absurd hrank (rank_lt_rank hlt hk (by simp)).ne'

end Build

section Pair

variable {s d : FederateId} {cs : List Connection} {m : Coordination}
  {stp stp' : Port → Interval}
variable {sender receiver : Plan}

theorem agree_of_build (hs : build s cs m stp = .ok sender)
    (hd : build d cs m stp' = .ok receiver) :
    Agree cs sender receiver where
  inlets := by rw [inlets_map_connection hd, federate_of_build hd]
  actions n i hn := by
    obtain ⟨k, c, hk, hc, hr, rfl⟩ := entry_of_inlet hd hn
    have hcd : c.destination.federate = d := by simpa using hc
    rw [ordinal_portAt_of_build hd hk, hcd, hr]
  outlets n o hn hrec := by
    obtain ⟨k, c, hk, hc, hr, rfl⟩ := entry_of_outlet hs hn
    have hcd : c.leadsTo d = true := by
      rw [leadsTo_iff, ← federate_of_build hd]
      exact hrec
    have hin := inletOf_entry hd hk hcd
    exact ⟨k, _, hk, federate_of_build hs ▸ hc, federate_of_build hs ▸ hr,
      (inlet?_portAt hd hk hcd).trans hin, hin, rfl⟩

end Pair

/-- **The plans of a federation agree.** All federates fail to build a plan with
the same error, that of the first connection with a flaw, or none does. If they
succeed, the actions of a receiver are the connections that lead to it, in
order; the port id of a sender leads to the inlet of the very connection that it
sends on; and no two connections to one federate share a port id, whoever sends
on them. -/
theorem plans_agree (cs : List Connection) (m : Coordination)
    (stp stp' stp'' : Port → Interval) (s s' d : FederateId) :
    (∀ e, build s cs m stp = .error e ↔ FirstFlaw cs e) ∧
    (∀ e, build s cs m stp = .error e ↔ build d cs m stp'' = .error e) ∧
    ∀ sender sender' receiver,
      build s cs m stp = .ok sender → build s' cs m stp' = .ok sender' →
      build d cs m stp'' = .ok receiver →
      Agree cs sender receiver ∧
      ∀ j k c c', j ≠ k → cs[j]? = some c → cs[k]? = some c' →
        c.leaves s = true → c.leadsTo d = true → c'.leaves s' = true →
          c'.leadsTo d = true →
        ∃ o o', sender.outletOf cs j = some o ∧ sender'.outletOf cs k = some o' ∧
          o.port ≠ o'.port := by
  refine ⟨fun e => build_error_iff, fun e => ?_,
    fun sender sender' receiver hs hs' hd => ?_⟩
  · rw [build_error_iff, build_error_iff]
  · refine ⟨agree_of_build hs hd, fun j k c c' hjk hj hk hc hcd hc' hcd' => ?_⟩
    have hdest : c.destination.federate = c'.destination.federate := by
      rw [leadsTo_iff.mp hcd, leadsTo_iff.mp hcd']
    exact ⟨_, _, outletOf_entry hs hj hc, outletOf_entry hs' hk hc',
      portAt_ne hd hj hk hdest hjk⟩

/-- Three federates. Two connections lead from the first to the last, one of
them physical. -/
def triangle : List Connection :=
  [{ source := ⟨⟨0⟩, { name := "first.out" }⟩
     destination := ⟨⟨2⟩, { name := "last.near" }⟩
     delay := some .zero, valueType := .text },
   { source := ⟨⟨1⟩, { name := "middle.out" }⟩
     destination := ⟨⟨2⟩, { name := "last.far" }⟩
     valueType := .text },
   { source := ⟨⟨0⟩, { name := "first.out" }⟩
     destination := ⟨⟨1⟩, { name := "middle.in" }⟩
     valueType := .text },
   { source := ⟨⟨0⟩, { name := "first.raw" }⟩
     destination := ⟨⟨2⟩, { name := "last.raw" }⟩
     physical := true, valueType := .text }]

theorem plans_agree_on_triangle :
    ∃ sender receiver,
      build ⟨0⟩ triangle .decentralized (fun _ => .zero) = .ok sender ∧
      build ⟨2⟩ triangle .decentralized (fun _ => .zero) = .ok receiver ∧
      Agree triangle sender receiver :=
  ⟨_, _, rfl, rfl,
    ((plans_agree triangle .decentralized (fun _ => .zero) (fun _ => .zero)
    (fun _ => .zero) ⟨0⟩ ⟨1⟩ ⟨2⟩).2.2 _ _ _ rfl rfl rfl).1⟩

end Federation.Plan
