/-
Federation/Proofs/Neighbors.lean

What a federate tells of its neighbours is true, and a lower bound.

The coordinator learns from each federate whom it receives from over logical
connections, with a delay for each, and whom it sends to. What the two ends of a
connection tell fits together, as both are read off the same list. The delay
that is told is the least one of all connections from that neighbour, where a
missing delay is less than any (`Delay.NoLonger`). That this is what the
coordinator needs is a fact about tags: a shorter delay never leads beyond a
longer one (`Tag.delayed_le`), so nothing that the neighbour sends at a tag
arrives before the tag that the told delay leads to.

The least delays are worked out in one pass over the inlets. Its invariant is
`Plan.Leasts`; one more inlet keeps it (`Leasts.concat`), and so it holds behind
the last one (`leasts_upstream`).
-/
import Mathlib
import Federation.Proofs.Agreement
import Federation.Proofs.TagOrder

namespace Federation

theorem FederateId.compare_eq_lt_iff {f g : FederateId} :
    compare f g = .lt ↔ f.number < g.number :=
  Std.compare_eq_lt (a := f.number)

/-- Whether the connection carries tags from one federate to another. -/
structure Connection.IsLogicalLink (s d : FederateId) (c : Connection) : Prop where
  leaves : c.leaves s = true
  leads : c.leadsTo d = true
  logical : c.isLogical = true

/-! ### The order of the delays -/

namespace Delay

/-- Whether a delay is no longer than another one; a missing delay is shorter
than any. -/
def NoLonger (a b : Delay) : Prop := ∀ x, a = some x → ∃ y, b = some y ∧ x.ns ≤ y.ns

variable {a b c : Delay}

theorem noLonger_refl (a : Delay) : a.NoLonger a :=
  fun x hx => ⟨x, hx, Int.le_refl _⟩

theorem none_noLonger (a : Delay) : NoLonger none a := fun x hx => by cases hx

theorem NoLonger.trans (hab : a.NoLonger b) (hbc : b.NoLonger c) :
    a.NoLonger c := by
  intro x hx
  obtain ⟨y, hy, hxy⟩ := hab x hx
  obtain ⟨z, hz, hyz⟩ := hbc y hy
  exact ⟨z, hz, hxy.trans hyz⟩

theorem eq_none_of_noLonger (h : a.NoLonger none) : a = none := by
  cases a with
  | none => rfl
  | some x =>
    obtain ⟨y, hy, -⟩ := h x rfl
    cases hy

theorem least_eq_or (a b : Delay) : a.least b = a ∨ a.least b = b := by
  cases a with
  | none => exact .inl rfl
  | some x =>
    cases b with
    | none => exact .inr rfl
    | some y => exact (ite_eq_or_eq (x ≤ y) x y).imp (congrArg some) (congrArg some)

theorem least_noLonger (a b : Delay) :
    (a.least b).NoLonger a ∧ (a.least b).NoLonger b := by
  cases a with
  | none => exact ⟨none_noLonger _, none_noLonger _⟩
  | some x =>
    cases b with
    | none => exact ⟨none_noLonger _, none_noLonger _⟩
    | some y =>
      rw [least]
      split
      · next hle =>
          exact ⟨noLonger_refl _, fun z hz => ⟨y, rfl, by cases hz; exact hle⟩⟩
      · next hlt =>
        have hle : y.ns ≤ x.ns := (Int.not_le.mp hlt).le
        exact ⟨fun z hz => ⟨x, rfl, by cases hz; exact hle⟩, noLonger_refl _⟩

end Delay

/-- A shorter delay does not lead beyond a longer one. -/
theorem Tag.delayed_le {tag a b : Tag} {d d' : Delay} (h : d.NoLonger d')
    (ha : tag.delayed d = .ok a) (hb : tag.delayed d' = .ok b) : a ≤ b := by
  have hpa := position_of_delayed ha
  have hpb := position_of_delayed hb
  have hmicro := tag.microstep.toNat_lt
  rw [le_iff]
  cases d with
  | none =>
    -- without a delay the tag stays, and no delay leads back
    obtain rfl : a = tag := hpa
    cases d' with
    | none =>
      obtain rfl : b = a := hpb
      exact Int.le_refl _
    | some y =>
      simp only at hpb
      unfold position at *
      omega
  | some x =>
    -- both delays are there; a delay of nought leads one microstep on, a longer
    -- one beyond the instant
    obtain ⟨y, rfl, hxy⟩ := h x rfl
    simp only at hpa hpb
    unfold position at *
    omega

/-! ### The least delays -/

namespace Plan

open Connection

/-- Whether the delays are the least ones of the inlets, for each federate that
one comes from. -/
structure Leasts (delays : Std.ExtTreeMap FederateId Delay)
    (inlets : List Inlet) : Prop where
  heard : ∀ i ∈ inlets, i.connection.source.federate ∈ delays
  attained : ∀ (f : FederateId) (d : Delay), delays[f]? = some d →
    ∃ i ∈ inlets, i.connection.source.federate = f ∧ i.connection.delay = d
  least : ∀ (f : FederateId) (d : Delay), delays[f]? = some d →
    ∀ i ∈ inlets, i.connection.source.federate = f → d.NoLonger i.connection.delay

section Leasts

variable {delays : Std.ExtTreeMap FederateId Delay} {inlets : List Inlet}

theorem getElem?_leastDelay_self (i : Inlet) :
    (leastDelay delays i)[i.connection.source.federate]? =
      some (delays[i.connection.source.federate]?.elim i.connection.delay
        (·.least i.connection.delay)) := by
  rw [leastDelay, Std.ExtTreeMap.getElem?_alter, if_pos Std.ReflCmp.compare_self]
  cases delays[i.connection.source.federate]? <;> rfl

theorem getElem?_leastDelay_of_ne {i : Inlet} {f : FederateId}
    (h : i.connection.source.federate ≠ f) :
    (leastDelay delays i)[f]? = delays[f]? := by
  rw [leastDelay, Std.ExtTreeMap.getElem?_alter,
    if_neg fun heq => h (Std.LawfulEqOrd.eq_of_compare heq)]

/-- Where a delay behind one more inlet comes from: it was there before, or it
is that of the inlet, or it is the lesser one of both. -/
theorem leastDelay_cases {i : Inlet} {f : FederateId} {d : Delay}
    (h : (leastDelay delays i)[f]? = some d) :
    (i.connection.source.federate ≠ f ∧ delays[f]? = some d) ∨
    (i.connection.source.federate = f ∧ delays[f]? = none ∧
      d = i.connection.delay) ∨
    (i.connection.source.federate = f ∧
      ∃ before,
        delays[f]? = some before ∧ d = before.least i.connection.delay) := by
  by_cases hsource : i.connection.source.federate = f
  · subst hsource
    rw [getElem?_leastDelay_self] at h
    rcases hbefore : delays[i.connection.source.federate]? with - | before
    · rw [hbefore] at h
      exact .inr (.inl ⟨rfl, rfl, (Option.some.inj h).symm⟩)
    · rw [hbefore] at h
      exact .inr (.inr ⟨rfl, before, rfl, (Option.some.inj h).symm⟩)
  · rw [getElem?_leastDelay_of_ne hsource] at h
    exact .inl ⟨hsource, h⟩

theorem leasts_nil : Leasts ∅ [] where
  heard i hi := by cases hi
  attained f d hd := by simp at hd
  least f d hd := by simp at hd

/-- One more inlet: the federate it comes from is heard, with a delay that is no
longer than before. -/
theorem Leasts.concat (h : Leasts delays inlets) (i : Inlet) :
    Leasts (leastDelay delays i) (inlets ++ [i]) where
  heard j hj := by
    -- the federate of an earlier inlet was heard before, and that of the last
    -- one is heard now
    rw [Std.ExtTreeMap.mem_iff_isSome_getElem?]
    by_cases hsource : i.connection.source.federate = j.connection.source.federate
    · rw [← hsource, getElem?_leastDelay_self]
      rfl
    · rw [getElem?_leastDelay_of_ne hsource,
        ← Std.ExtTreeMap.mem_iff_isSome_getElem?]
      rcases List.mem_append.mp hj with hj | hj
      · exact h.heard j hj
      · exact absurd (by rw [List.mem_singleton.mp hj]) hsource
  attained f d hd := by
    -- an inlet from before is still there
    have hstays : ∀ d', delays[f]? = some d' →
        ∃ j ∈ inlets ++ [i],
          j.connection.source.federate = f ∧ j.connection.delay = d' := by
      intro d' hd'
      obtain ⟨j, hj, hattained⟩ := h.attained f d' hd'
      exact ⟨j, List.mem_append_left _ hj, hattained⟩
    have hlast : i ∈ inlets ++ [i] := List.mem_concat_self
    rcases leastDelay_cases hd with
      ⟨-, hbefore⟩ | ⟨hsource, -, rfl⟩ | ⟨hsource, before, hbefore, rfl⟩
    · exact hstays d hbefore
    · exact ⟨i, hlast, hsource, rfl⟩
    · rcases Delay.least_eq_or before i.connection.delay with hleast | hleast
      · rw [hleast]
        exact hstays before hbefore
      · exact ⟨i, hlast, hsource, hleast.symm⟩
  least f d hd j hj hf := by
    rcases leastDelay_cases hd with
      ⟨hsource, hbefore⟩ | ⟨-, hnone, rfl⟩ | ⟨-, before, hbefore, rfl⟩ <;>
      rcases List.mem_append.mp hj with hj | hj
    · exact h.least f d hbefore j hj hf
    · rw [List.mem_singleton.mp hj] at hf
      exact absurd hf hsource
    · -- nothing was heard from there, so `j` is none of the earlier inlets
      have hheard := h.heard j hj
      rw [hf, Std.ExtTreeMap.mem_iff_isSome_getElem?, hnone] at hheard
      cases hheard
    · rw [List.mem_singleton.mp hj]
      exact Delay.noLonger_refl _
    · exact (Delay.least_noLonger before _).1.trans
        (h.least f before hbefore j hj hf)
    · rw [List.mem_singleton.mp hj]
      exact (Delay.least_noLonger before _).2

theorem leasts_upstream (plan : Plan) : Leasts plan.upstream plan.awaited := by
  unfold upstream
  -- the pass goes from the left, so one more inlet is added at the right
  induction plan.awaited using List.reverseRecOn with
  | nil => exact leasts_nil
  | append_singleton inlets i ih =>
    rw [List.foldl_append]
    exact ih.concat i

end Leasts

/-! ### What is told -/

section Build

variable {f g s d : FederateId} {cs : List Connection} {m m' : Coordination}
variable {stp stp' : Port → Interval} {plan : Plan} {delay : Delay} {c : Connection}

theorem exists_awaited_iff (h : build f cs m stp = .ok plan)
    {P : Connection → Prop} :
    (∃ i ∈ plan.awaited, P i.connection) ↔
      ∃ c ∈ cs, c.leadsTo f = true ∧ c.isLogical = true ∧ P c := by
  rw [← exists_iff_of_map_eq_filter (inlets_map_connection h)
    (P := fun c => c.isLogical = true ∧ P c)]
  simp only [awaited, List.mem_filter, and_assoc]

theorem exists_announced_iff (h : build f cs m stp = .ok plan)
    {P : Connection → Prop} :
    (∃ o ∈ plan.announced, P o.connection) ↔
      ∃ c ∈ cs, c.leaves f = true ∧ c.isLogical = true ∧ P c := by
  rw [← exists_iff_of_map_eq_filter (outlets_map_connection h)
    (P := fun c => c.isLogical = true ∧ P c)]
  simp only [announced, List.mem_filter, and_assoc]

theorem mem_neighbors_upstream_iff :
    (g, delay) ∈ plan.neighbors.upstream ↔ plan.upstream[g]? = some delay :=
  Std.ExtTreeMap.mem_toList_iff_getElem?_eq_some

/-- The delay that is told is the one of some logical connection from there. -/
theorem exists_delay_eq (h : build d cs m stp = .ok plan)
    (htold : (s, delay) ∈ plan.neighbors.upstream) :
    ∃ c ∈ cs, c.IsLogicalLink s d ∧ c.delay = delay := by
  obtain ⟨i, hi, hsource, hdelay⟩ :=
    (leasts_upstream plan).attained s delay (mem_neighbors_upstream_iff.mp htold)
  obtain ⟨c, hc, hleads, hlogical, rfl⟩ :=
    (exists_awaited_iff h (P := (i.connection = ·))).mp ⟨i, hi, rfl⟩
  exact ⟨_, hc, ⟨leaves_iff.mpr hsource, hleads, hlogical⟩, hdelay⟩

theorem exists_awaited_of_mem (h : build d cs m stp = .ok plan) (hc : c ∈ cs)
    (hlink : c.IsLogicalLink s d) :
    ∃ i ∈ plan.awaited,
      i.connection.source.federate = s ∧ i.connection.delay = c.delay := by
  refine (exists_awaited_iff h
    (P := fun c' => c'.source.federate = s ∧ c'.delay = c.delay)).mpr ⟨c, hc, ?_⟩
  exact ⟨hlink.leads, hlink.logical, leaves_iff.mp hlink.leaves, rfl⟩

/-- The delay that is told is no longer than that of any logical connection from
there. -/
theorem noLonger_of_told (h : build d cs m stp = .ok plan)
    (htold : (s, delay) ∈ plan.neighbors.upstream) (hc : c ∈ cs)
    (hlink : c.IsLogicalLink s d) :
    delay.NoLonger c.delay := by
  obtain ⟨i, hi, hsource, hdelay⟩ := exists_awaited_of_mem h hc hlink
  rw [← hdelay]
  exact (leasts_upstream plan).least s delay
    (mem_neighbors_upstream_iff.mp htold) i hi hsource

theorem exists_told_iff (h : build d cs m stp = .ok plan) :
    (∃ delay, (s, delay) ∈ plan.neighbors.upstream) ↔
      ∃ c ∈ cs, c.IsLogicalLink s d := by
  constructor
  · rintro ⟨delay, htold⟩
    obtain ⟨c, hc, hlink, -⟩ := exists_delay_eq h htold
    exact ⟨c, hc, hlink⟩
  · rintro ⟨c, hc, hlink⟩
    obtain ⟨i, hi, rfl, -⟩ := exists_awaited_of_mem h hc hlink
    have hheard := (leasts_upstream plan).heard i hi
    rw [Std.ExtTreeMap.mem_iff_isSome_getElem?, Option.isSome_iff_exists] at hheard
    exact hheard.imp fun _ => mem_neighbors_upstream_iff.mpr

theorem mem_neighbors_downstream_iff (h : build s cs m stp = .ok plan) :
    d ∈ plan.neighbors.downstream ↔ ∃ c ∈ cs, c.IsLogicalLink s d := by
  simp only [neighbors, downstream, Std.ExtTreeSet.mem_toList,
    Std.ExtTreeSet.mem_ofList, List.contains_iff_mem, List.mem_map]
  rw [exists_announced_iff h (P := fun c => c.destination.federate = d)]
  constructor
  · rintro ⟨c, hc, hleaves, hlogical, hleads⟩
    exact ⟨c, hc, hleaves, leadsTo_iff.mpr hleads, hlogical⟩
  · rintro ⟨c, hc, hlink⟩
    exact ⟨c, hc, hlink.leaves, hlink.logical, leadsTo_iff.mp hlink.leads⟩

theorem upstream_sorted :
    plan.neighbors.upstream.Pairwise (·.1.number < ·.1.number) :=
  (Std.ExtTreeMap.ordered_keys_toList (t := plan.upstream)).imp
    FederateId.compare_eq_lt_iff.mp

theorem downstream_sorted :
    plan.neighbors.downstream.Pairwise (·.number < ·.number) :=
  (Std.ExtTreeSet.ordered_toList (t := plan.downstream)).imp
    FederateId.compare_eq_lt_iff.mp

end Build

/-- **What is told of neighbours.** A federate `d` tells that it receives from
`s` exactly if there is a logical connection that leads from `s` to `d`, and
exactly if `s` tells that it sends to `d`. Both lists are in strict order, so
nobody is told twice. The delay that is told is that of some logical connection
from `s` to `d`; it is missing if any of them has none; and from no tag does it
lead beyond the tag that any of them leads to. -/
theorem neighbors_lower_bound (s d : FederateId) (cs : List Connection)
    (m m' : Coordination) (stp stp' : Port → Interval) {sender receiver : Plan}
    (hs : build s cs m stp = .ok sender) (hd : build d cs m' stp' = .ok receiver) :
    ((∃ delay, (s, delay) ∈ receiver.neighbors.upstream) ↔
      ∃ c ∈ cs, c.IsLogicalLink s d) ∧
    (d ∈ sender.neighbors.downstream ↔ ∃ c ∈ cs, c.IsLogicalLink s d) ∧
    receiver.neighbors.upstream.Pairwise (·.1.number < ·.1.number) ∧
    sender.neighbors.downstream.Pairwise (·.number < ·.number) ∧
    ∀ delay, (s, delay) ∈ receiver.neighbors.upstream →
      (∃ c ∈ cs, c.IsLogicalLink s d ∧ c.delay = delay) ∧
      ∀ c ∈ cs, c.IsLogicalLink s d → (c.delay = none → delay = none) ∧
        ∀ tag a b, Tag.delayed tag delay = .ok a → tag.delayed c.delay = .ok b →
          a ≤ b := by
  refine ⟨exists_told_iff hd, mem_neighbors_downstream_iff hs, upstream_sorted,
    downstream_sorted, ?_⟩
  intro delay htold
  refine ⟨exists_delay_eq hd htold, fun c hc hlink => ?_⟩
  have hle := noLonger_of_told hd htold hc hlink
  refine ⟨fun hnone => ?_, fun tag a b ha hb => Tag.delayed_le hle ha hb⟩
  rw [hnone] at hle
  exact Delay.eq_none_of_noLonger hle

/-- A logical connection without a delay, beside one of the triangle that has a
delay of nought. -/
def shortcut : Connection where
  source := ⟨⟨0⟩, { name := "first.out" }⟩
  destination := ⟨⟨2⟩, { name := "last.soon" }⟩
  valueType := .text

theorem neighbors_lower_bound_on_shortcut :
    ∃ sender receiver,
      build ⟨0⟩ (triangle ++ [shortcut]) .centralized (fun _ => .zero)
        = .ok sender ∧
      build ⟨2⟩ (triangle ++ [shortcut]) .centralized (fun _ => .zero)
        = .ok receiver ∧
      sender.neighbors = ⟨[], [⟨1⟩, ⟨2⟩]⟩ ∧
      receiver.neighbors = ⟨[(⟨0⟩, none), (⟨1⟩, none)], []⟩ ∧
      ∀ tag b, Tag.delayed tag (some .zero) = .ok b → tag ≤ b := by
  obtain ⟨-, -, -, -, htold⟩ :=
    neighbors_lower_bound ⟨0⟩ ⟨2⟩ (triangle ++ [shortcut]) .centralized
      .centralized (fun _ => .zero) (fun _ => .zero) rfl rfl
  refine ⟨_, _, rfl, rfl, rfl, rfl, fun tag b hb => ?_⟩
  exact ((htold none (by decide)).2 triangle[0]
    (by simp [triangle]) ⟨rfl, rfl, rfl⟩).2 tag tag b rfl hb

end Plan

end Federation
