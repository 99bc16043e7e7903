/-
Federation/Proofs/Opening.lean

What a federate opens with comes through.

A federate opens its link to the coordinator with its number and the id of its
federation, and then tells its neighbours; a link to a peer it opens with the
number and the id. These frames have forms on the wire that do not say all: an
id that is too long is cut off, there is a limit to the neighbours, and one
delay stands for none. A federate never meets any of this, and none of it is
looked at when the frames are made:

* settings with a long id are refused beforehand (`utf8ByteSize_le_of_validate`);
* the neighbours are different federates and not the federate itself, so there
  are fewer than numbers (`length_lt_of_sorted`);
* the delays that are told do not point backwards, as those of the connections
  do not (`told_nonneg`).
-/
import Mathlib
import Federation.Config.Basic
import Federation.Proofs.Neighbors
import Federation.Proofs.RoundTrip

namespace Federation

/-! ### The settings -/

theorem ConfigFlaw.mem_when_iff {flaw other : ConfigFlaw} {p : Prop} [Decidable p] :
    other ∈ flaw.when p ↔ p ∧ other = flaw := by
  unfold ConfigFlaw.when
  split <;> simp_all

theorem Config.validate_ok_iff {c : Config} :
    c.validate = .ok () ↔ c.flaws = [] := by
  unfold validate
  rcases c.flaws with - | ⟨flaw, flaws⟩
  · exact iff_of_true rfl rfl
  · exact iff_of_false nofun nofun

theorem Config.utf8ByteSize_le_of_validate {c : Config} (h : c.validate = .ok ()) :
    c.federationId.utf8ByteSize ≤ Frame.maxFederationId := by
  by_contra hlong
  have hflaw : .longFederationId c.federationId.utf8ByteSize ∈ c.flaws := by
    simp only [flaws, List.mem_append, ConfigFlaw.mem_when_iff]
    simp [Nat.not_le.mp hlong]
  rw [validate_ok_iff.mp h] at hflaw
  cases hflaw

/-! ### The neighbours -/

/-- Federates in strict order are fewer than there are numbers, if one is left
out. -/
theorem FederateId.length_lt_of_sorted {f : FederateId} {l : List FederateId}
    (hsorted : l.Pairwise (·.number < ·.number)) (hf : f ∉ l) :
    l.length < Frame.maxNeighbors := by
  have hnodup : l.Nodup := by
    refine hsorted.imp ?_
    rintro g _ hlt rfl
    exact UInt16.lt_irrefl _ hlt
  have hinjective : Function.Injective fun f : FederateId => f.number.toFin :=
      fun f g h =>
    FederateId.ext (UInt16.toFin_inj.mp h)
  -- with the one that is left out they are still different, so no more than
  -- there are numbers
  have hcard := ((List.nodup_cons.mpr ⟨hf, hnodup⟩).map hinjective).length_le_card
  rw [List.length_map, List.length_cons, Fintype.card_fin] at hcard
  exact hcard

namespace Plan

open Connection

variable {f g : FederateId} {cs : List Connection} {m : Coordination}
  {stp : Port → Interval}
variable {plan : Plan} {d : Interval}

theorem not_isLogicalLink_self (h : build f cs m stp = .ok plan) {c : Connection}
    (hc : c ∈ cs) :
    ¬ c.IsLogicalLink g g :=
      fun hlink => not_leadsTo_of_leaves h hc hlink.leaves hlink.leads

theorem length_upstream_lt (h : build f cs m stp = .ok plan) :
    plan.neighbors.upstream.length < Frame.maxNeighbors := by
  have hself : f ∉ plan.neighbors.upstream.map Prod.fst := by
    intro hmem
    obtain ⟨⟨_, delay⟩, htold, rfl⟩ := List.mem_map.mp hmem
    obtain ⟨c, hc, hlink⟩ := (exists_told_iff h).mp ⟨delay, htold⟩
    exact not_isLogicalLink_self h hc hlink
  rw [← List.length_map Prod.fst]
  exact FederateId.length_lt_of_sorted (List.pairwise_map.mpr upstream_sorted) hself

theorem length_downstream_lt (h : build f cs m stp = .ok plan) :
    plan.neighbors.downstream.length < Frame.maxNeighbors := by
  have hself : f ∉ plan.neighbors.downstream := by
    intro hmem
    obtain ⟨c, hc, hlink⟩ := (mem_neighbors_downstream_iff h).mp hmem
    exact not_isLogicalLink_self h hc hlink
  exact FederateId.length_lt_of_sorted downstream_sorted hself

/-- The delays that are told do not point backwards. -/
theorem told_nonneg (h : build f cs m stp = .ok plan)
    (htold : (g, some d) ∈ plan.neighbors.upstream) : 0 ≤ d.ns := by
  obtain ⟨c, hc, -, hdelay⟩ := exists_delay_eq h htold
  have hvalid := (validate_ok_iff.mp (validate_of_build h hc)).2.1
  exact (validateDelay_ok_iff.mp hvalid d hdelay).1

/-- No delay that is told is the one that stands for none. -/
theorem told_ne_noDelay (h : build f cs m stp = .ok plan) :
    ∀ entry ∈ plan.neighbors.upstream,
      entry.2.map Interval.ns ≠ some Frame.noDelay := by
  rintro ⟨g, delay⟩ htold heq
  cases delay with
  | none => cases heq
  | some d =>
    -- the delay that stands for none points backwards
    have hnonneg := told_nonneg h htold
    rw [Option.some.inj heq] at hnonneg
    exact absurd hnonneg (by decide)

end Plan

/-! ### The frames -/

/-- The frames that a federate opens its links with: two for the coordinator,
one for each peer. -/
def Config.openings (c : Config) (plan : Plan) : List Frame :=
  [.joinFederation c.federate c.federationId, .neighborStructure plan.neighbors,
   .joinPeer c.federate c.federationId]

/-- **What a federate opens with comes through.** With valid settings, and with
the plan that its federate has in any federation, each of the opening frames has
an encoding, and that is decoded to the same frame. The id of the federation is
written whole, both lists of neighbours stay below the limit, and no delay is
written as if there were none. -/
theorem Config.openings_come_through (c : Config) (cs : List Connection)
    (m : Coordination) (stp : Port → Interval) {plan : Plan}
    (hc : c.validate = .ok ())
    (hplan : Plan.build c.federate cs m stp = .ok plan) :
    (∀ frame ∈ c.openings plan,
      ∃ bytes, frame.encode = .ok bytes ∧ Frame.decode bytes = .ok frame) ∧
    Frame.federationBytes c.federationId = c.federationId.toByteArray ∧
    plan.neighbors.upstream.length < Frame.maxNeighbors ∧
    plan.neighbors.downstream.length < Frame.maxNeighbors ∧
    ∀ entry ∈ plan.neighbors.upstream,
      entry.2.map Interval.ns ≠ some Frame.noDelay := by
  have hid : c.federationId.toByteArray.size ≤ Frame.maxFederationId :=
    String.size_toByteArray.trans_le (utf8ByteSize_le_of_validate hc)
  have hup := Plan.length_upstream_lt hplan
  have hdown := Plan.length_downstream_lt hplan
  have hdelays := Plan.told_ne_noDelay hplan
  refine ⟨?_, Frame.federationBytes_of_le hid, hup, hdown, hdelays⟩
  simp only [openings, List.forall_mem_cons, List.not_mem_nil, false_imp_iff,
    implies_true, and_true]
  refine ⟨?_, ?_, ?_⟩
  · exact Frame.exists_decode_encode trivial hid
  · exact Frame.exists_decode_encode ⟨hup.le, hdown.le⟩ hdelays
  · exact Frame.exists_decode_encode trivial hid

theorem Config.openings_come_through_on_triangle :
    ∃ plan bytes,
      Plan.build ⟨2⟩ Plan.triangle .centralized (fun _ => .zero) = .ok plan ∧
      plan.neighbors = ⟨[(⟨0⟩, some .zero), (⟨1⟩, none)], []⟩ ∧
      (Frame.neighborStructure plan.neighbors).encode = .ok bytes ∧
      Frame.decode bytes = .ok (.neighborStructure plan.neighbors) := by
  obtain ⟨hframes, -⟩ :=
    openings_come_through { federate := ⟨2⟩, federationId := "fed" }
    Plan.triangle .centralized (fun _ => .zero) rfl rfl
  obtain ⟨bytes, hbytes⟩ := hframes _ (List.mem_cons_of_mem _ List.mem_cons_self)
  exact ⟨_, bytes, rfl, rfl, hbytes⟩

end Federation
