/-
Federation/Proofs/Numbering.lean

The numbering of the connections, told by position.

`Plan.number` goes through the list once and keeps a counter for each federate.
Here its result is told without counters. The `rank` of a place in a list is the
number of earlier places that satisfy a condition; the connection at place `k`
gets as its port id the rank of `k` among the connections that lead to the same
federate (`portAt`), and the numbering fails with the error of the first place
at which there is a flaw (`FirstFlaw`).

The invariant of the pass is `Numbering.Covers`: the counters count, and the
numbered list is the one that `portAt` describes, without a flaw (`Numbered`).
One more connection either keeps it or is itself the first flaw (`Covers.add`),
so by induction from the right the whole list does (`foldlM_cases`).
-/
import Mathlib
import Federation.Plan

namespace Federation

/-! ### Places in a list -/

section Rank

variable {α : Type} {p : α → Bool} {l : List α} {k : Nat} {a : α}

/-- The number of places before `k` that satisfy `p`. -/
def rank (p : α → Bool) (l : List α) (k : Nat) : Nat := (l.take k).countP p

theorem rank_append_left (p : α → Bool) {l l' : List α} (h : k ≤ l.length) :
    rank p (l ++ l') k = rank p l k := by
  rw [rank, List.take_append_of_le_length h, rank]

theorem rank_length (p : α → Bool) (l l' : List α) :
    rank p (l ++ l') l.length = l.countP p := by
  rw [rank, List.take_left]

theorem rank_map {β : Type} (p : β → Bool) (f : α → β) (l : List α) (k : Nat) :
    rank p (l.map f) k = rank (p ∘ f) l k := by
  rw [rank, ← List.map_take, List.countP_map, rank]

/-- A place that satisfies the condition is found in the filtered list at its
rank. -/
theorem getElem?_filter_rank (h : l[k]? = some a) (hp : p a = true) :
    (l.filter p)[rank p l k]? = some a := by
  induction l generalizing k with
  | nil => simp at h
  | cons b l ih =>
    cases k with
    | zero =>
      obtain rfl : b = a := by simpa using h
      simp [rank, hp]
    | succ k =>
      have hk : l[k]? = some a := by simpa using h
      by_cases hb : p b = true
      · simpa [rank, hb] using ih hk
      · simpa [rank, hb] using ih hk

/-- Every place of the filtered list is the rank of a place of the list. -/
theorem exists_rank_of_getElem?_filter {j : Nat} (h : (l.filter p)[j]? = some a) :
    ∃ k, l[k]? = some a ∧ p a = true ∧ rank p l k = j := by
  induction l generalizing j with
  | nil => simp at h
  | cons b l ih =>
    by_cases hb : p b = true
    · cases j with
      | zero =>
        obtain rfl : b = a := by simpa [hb] using h
        exact ⟨0, rfl, hb, rfl⟩
      | succ j =>
        obtain ⟨k, hk, hp, hr⟩ := ih (by simpa [hb] using h)
        exact ⟨k + 1, hk, hp, by simpa [rank, hb] using hr⟩
    · obtain ⟨k, hk, hp, hr⟩ := ih (by simpa [hb] using h)
      exact ⟨k + 1, hk, hp, by simpa [rank, hb] using hr⟩

/-- Two places that satisfy the condition have different ranks. -/
theorem rank_lt_rank {j : Nat} (hjk : j < k) (h : l[j]? = some a)
    (hp : p a = true) :
    rank p l j < rank p l k := by
  have hj : (l.take k)[j]? = some a := by rw [List.getElem?_take_of_lt hjk, h]
  have hlt := (List.getElem?_eq_some_iff.mp (getElem?_filter_rank hj hp)).1
  rwa [rank, List.take_take, Nat.min_eq_left hjk.le, ← List.countP_eq_length_filter]
    at hlt

end Rank

/-! ### Port ids and flaws -/

namespace Connection

/-- Whether the connection leaves the federate. -/
def leaves (f : FederateId) (c : Connection) : Bool := c.source.federate = f

/-- Whether the connection leads to the federate. -/
def leadsTo (f : FederateId) (c : Connection) : Bool := c.destination.federate = f

@[simp] theorem leaves_iff {f : FederateId} {c : Connection} :
    c.leaves f = true ↔ c.source.federate = f := by simp [leaves]

@[simp] theorem leadsTo_iff {f : FederateId} {c : Connection} :
    c.leadsTo f = true ↔ c.destination.federate = f := by simp [leadsTo]

theorem validate_ok_iff {c : Connection} :
    c.validate = .ok () ↔ c.source.federate ≠ c.destination.federate ∧
      c.validateDelay = .ok () ∧ c.validateEncoding = .ok () := by
  unfold validate
  by_cases h : c.source.federate = c.destination.federate
  · rw [if_pos h]
    exact iff_of_false nofun fun h' => h'.1 h
  · rw [if_neg h]
    change (do c.validateDelay; c.validateEncoding) = _ ↔ _
    rcases c.validateDelay with e | ⟨⟩
    · constructor
      · intro h'
        cases h'
      · rintro ⟨-, h', -⟩
        cases h'
    · exact ⟨fun h' => ⟨h, rfl, h'⟩, fun h' => h'.2.2⟩

/-- A valid delay does not point backwards, and only a logical connection has
one. -/
theorem validateDelay_ok_iff {c : Connection} :
    c.validateDelay = .ok () ↔
      ∀ d, c.delay = some d → 0 ≤ d.ns ∧ c.physical = false := by
  unfold validateDelay
  rcases c.delay with - | d
  · exact iff_of_true rfl (by simp)
  · simp only [Option.some.injEq, forall_eq', Interval.isNegative,
      decide_eq_true_eq]
    split
    · next hneg => exact iff_of_false nofun fun h => absurd h.1 (by omega)
    · next hnonneg =>
      split
      · next hphysical => exact iff_of_false nofun fun h => by simp [hphysical] at h
      · next hlogical => exact iff_of_true rfl ⟨by omega, by simpa using hlogical⟩

end Connection

namespace Plan

open Connection

/-- The port id of the connection `c` at place `k`. -/
def portAt (cs : List Connection) (k : Nat) (c : Connection) : PortId :=
  ⟨UInt16.ofNat (rank (leadsTo c.destination.federate) cs k)⟩

/-- What can be wrong with the connection at place `k`: that it is refused, or
that it is the first one beyond the port ids of the federate it leads to. -/
inductive Flaw (cs : List Connection) (k : Nat) : PlanError → Prop
  | refused {c : Connection} {e : ConnectionError} :
      cs[k]? = some c → c.validate = .error e → Flaw cs k (.connection c.render e)
  | excess {c : Connection} :
      cs[k]? = some c → c.validate = .ok () →
      rank (leadsTo c.destination.federate) cs k = maxActions →
      Flaw cs k (.tooManyActions c.destination.federate)

/-- The error of the first place that has a flaw. -/
def FirstFlaw (cs : List Connection) (e : PlanError) : Prop :=
  ∃ k, Flaw cs k e ∧ ∀ j < k, ∀ e', ¬ Flaw cs j e'

theorem Flaw.lt_length {cs : List Connection} {k : Nat} {e : PlanError}
    (h : Flaw cs k e) :
    k < cs.length := by
  cases h with
  | refused hk _ => exact (List.getElem?_eq_some_iff.mp hk).1
  | excess hk _ _ => exact (List.getElem?_eq_some_iff.mp hk).1

/-- A place has one flaw at most. -/
theorem Flaw.unique {cs : List Connection} {k : Nat} {e e' : PlanError}
    (h : Flaw cs k e) (h' : Flaw cs k e') : e = e' := by
  cases h with
  | refused hk hv =>
    cases h' with
    | refused hk' hv' =>
      obtain rfl := Option.some.inj (hk.symm.trans hk')
      cases hv.symm.trans hv'
      rfl
    | excess hk' hv' _ =>
      obtain rfl := Option.some.inj (hk.symm.trans hk')
      cases hv.symm.trans hv'
  | excess hk hv _ =>
    cases h' with
    | refused hk' hv' =>
      obtain rfl := Option.some.inj (hk.symm.trans hk')
      cases hv.symm.trans hv'
    | excess hk' _ _ =>
      obtain rfl := Option.some.inj (hk.symm.trans hk')
      rfl

theorem FirstFlaw.unique {cs : List Connection} {e e' : PlanError}
    (h : FirstFlaw cs e) (h' : FirstFlaw cs e') : e = e' := by
  obtain ⟨k, hk, hfirst⟩ := h
  obtain ⟨k', hk', hfirst'⟩ := h'
  rcases Nat.lt_trichotomy k k' with hlt | rfl | hlt
  · exact absurd hk (hfirst' k hlt e)
  · exact hk.unique hk'
  · exact absurd hk' (hfirst k' hlt e')

/-- What comes behind a place has no part in its flaw. -/
theorem flaw_append_iff {cs cs' : List Connection} {k : Nat} {e : PlanError}
    (h : k < cs.length) :
    Flaw (cs ++ cs') k e ↔ Flaw cs k e := by
  have hget : (cs ++ cs')[k]? = cs[k]? := List.getElem?_append_left h
  constructor
  · intro hf
    cases hf with
    | refused hk hv => exact .refused (hget ▸ hk) hv
    | excess hk hv hr => exact .excess (hget ▸ hk) hv (rank_append_left _ h.le ▸ hr)
  · intro hf
    cases hf with
    | refused hk hv => exact .refused (hget.trans hk) hv
    | excess hk hv hr =>
      exact .excess (hget.trans hk) hv ((rank_append_left _ h.le).trans hr)

theorem FirstFlaw.append {cs : List Connection} {e : PlanError} (h : FirstFlaw cs e)
    (cs' : List Connection) : FirstFlaw (cs ++ cs') e := by
  obtain ⟨k, hk, hfirst⟩ := h
  have hlen := hk.lt_length
  refine ⟨k, (flaw_append_iff hlen).mpr hk, fun j hj e' hf => ?_⟩
  exact hfirst j hj e' ((flaw_append_iff (hj.trans hlen)).mp hf)

/-! ### Numbered lists -/

/-- Whether the list is numbered as it should be: each connection has its port
id, there are enough of them, and no place has a flaw. -/
structure Numbered (cs : List Connection) (numbered : List Outlet) : Prop where
  bounded : ∀ f, cs.countP (leadsTo f) ≤ maxActions
  outlets : ∀ k, numbered[k]? = cs[k]?.map fun c => (⟨c, portAt cs k c⟩ : Outlet)
  sound : ∀ k e, ¬ Flaw cs k e

theorem Numbered.map_connection {cs : List Connection} {numbered : List Outlet}
    (h : Numbered cs numbered) : numbered.map (·.connection) = cs := by
  apply List.ext_getElem?
  intro k
  rw [List.getElem?_map, h.outlets k, Option.map_map]
  cases cs[k]? <;> rfl

theorem Numbered.validate {cs : List Connection} {numbered : List Outlet}
    (h : Numbered cs numbered) {c : Connection} (hc : c ∈ cs) :
    c.validate = .ok () := by
  obtain ⟨k, hk⟩ := List.mem_iff_getElem?.mp hc
  rcases hv : c.validate with e | u
  · exact absurd (.refused hk hv) (h.sound k _)
  · rfl

/-- Of the numbered connections those that satisfy a condition are picked, in
order. -/
theorem Numbered.map_filter {cs : List Connection} {numbered : List Outlet}
    (h : Numbered cs numbered) (p : Connection → Bool) :
    (numbered.filter (p ·.connection)).map (·.connection) = cs.filter p := by
  rw [← h.map_connection, List.filter_map]
  rfl

/-- A connection that satisfies the condition is found among those picked at its
rank. -/
theorem Numbered.getElem?_filter {cs : List Connection} {numbered : List Outlet}
    (h : Numbered cs numbered) {p : Connection → Bool} {k : Nat} {c : Connection}
    (hk : cs[k]? = some c) (hp : p c = true) :
    (numbered.filter (p ·.connection))[rank p cs k]? = some ⟨c, portAt cs k c⟩ := by
  have ho : numbered[k]? = some ⟨c, portAt cs k c⟩ := by rw [h.outlets, hk]; rfl
  have hr : rank p cs k = rank (p ·.connection) numbered k := by
    rw [← h.map_connection, rank_map]
    rfl
  rw [hr]
  exact getElem?_filter_rank ho hp

/-- What is picked is a connection that satisfies the condition, with its port
id. -/
theorem Numbered.entry_of_getElem?_filter {cs : List Connection}
    {numbered : List Outlet} (h : Numbered cs numbered) {p : Connection → Bool}
    {j : Nat} {o : Outlet} (hj : (numbered.filter (p ·.connection))[j]? = some o) :
    ∃ k c, cs[k]? = some c ∧ p c = true ∧ rank p cs k = j ∧
      o = ⟨c, portAt cs k c⟩ := by
  have hmap : (cs.filter p)[j]? = some o.connection := by
    rw [← h.map_filter, List.getElem?_map, hj]
    rfl
  obtain ⟨k, hk, hp, hr⟩ := exists_rank_of_getElem?_filter hmap
  refine ⟨k, o.connection, hk, hp, hr, ?_⟩
  rw [← hr, h.getElem?_filter hk hp] at hj
  exact (Option.some.inj hj).symm

/-- The port id of a connection is its rank: there are enough port ids for all
ranks. -/
theorem Numbered.ordinal_portAt {cs : List Connection} {numbered : List Outlet}
    (h : Numbered cs numbered) {k : Nat} {c : Connection} (hk : cs[k]? = some c) :
    (portAt cs k c).ordinal = rank (leadsTo c.destination.federate) cs k := by
  have hb := h.bounded c.destination.federate
  have hfound :=
    getElem?_filter_rank hk (p := leadsTo c.destination.federate) (by simp)
  have hlt := (List.getElem?_eq_some_iff.mp hfound).1
  rw [← List.countP_eq_length_filter] at hlt
  rw [portAt, PortId.ordinal, UInt16.toNat_ofNat']
  exact Nat.mod_eq_of_lt (Nat.lt_of_lt_of_le hlt hb)

/-! ### The pass -/

/-- Whether the state of the numbering is the right one behind the connections
`cs`: they are numbered, and they are counted. -/
structure Numbering.Covers (n : Numbering) (cs : List Connection) : Prop
    extends Numbered cs n.reversed.reverse where
  counts : ∀ f, n.counts.getD f 0 = cs.countP (leadsTo f)

namespace Numbering

theorem covers_nil : Covers {} [] where
  counts f := by simp
  bounded f := by simp
  outlets k := by simp
  sound k e h := by simpa using h.lt_length

theorem Covers.length_eq {n : Numbering} {cs : List Connection} (h : n.Covers cs) :
    n.reversed.length = cs.length := by
  simpa using congrArg List.length h.map_connection

/-- The state behind one more connection, if that is valid and there is a port
id left for it. -/
theorem Covers.next {n : Numbering} {cs : List Connection} (h : n.Covers cs)
    {c : Connection} (hv : c.validate = .ok ())
    (hcount : n.counts.getD c.destination.federate 0 < maxActions) :
    Covers ⟨n.counts.insert c.destination.federate
      (n.counts.getD c.destination.federate 0 + 1),
      ⟨c, ⟨UInt16.ofNat (n.counts.getD c.destination.federate 0)⟩⟩ :: n.reversed⟩
      (cs ++ [c]) where
  counts f := by
    rw [Std.ExtTreeMap.getD_insert, List.countP_append, ← h.counts f]
    by_cases hf : c.destination.federate = f
    · subst hf
      simp [leadsTo]
    · simp [leadsTo, hf]
  bounded f := by
    have hb := h.bounded f
    rw [List.countP_append]
    by_cases hf : c.destination.federate = f
    · subst hf
      rw [h.counts] at hcount
      simpa [leadsTo] using hcount
    · simpa [leadsTo, hf] using hb
  outlets k := by
    have hlen : n.reversed.reverse.length = cs.length := by
      rw [List.length_reverse, h.length_eq]
    rw [List.reverse_cons]
    -- the places before the new connection, its own place, and those behind it
    rcases Nat.lt_trichotomy k cs.length with hk | rfl | hk
    · rw [List.getElem?_append_left (hlen ▸ hk), h.outlets k,
        List.getElem?_append_left hk]
      simp only [portAt, rank_append_left _ hk.le]
    · rw [← hlen, List.getElem?_concat_length, hlen, List.getElem?_concat_length]
      simp only [Option.map_some, portAt, rank_length, h.counts]
    · rw [List.getElem?_eq_none (by simp [h.length_eq]; omega),
        List.getElem?_eq_none (by simp; omega), Option.map_none]
  sound k e hf := by
    -- the earlier places have no flaw, and the last one has none by `hv` and
    -- `hcount`
    have hlast : (cs ++ [c])[cs.length]? = some c := List.getElem?_concat_length
    have hlt := hf.lt_length
    rw [List.length_append, List.length_singleton] at hlt
    rcases Nat.lt_or_eq_of_le (Nat.le_of_lt_succ hlt) with hk | rfl
    · exact h.sound k e ((flaw_append_iff hk).mp hf)
    · cases hf with
      | refused hk hv' =>
        obtain rfl := Option.some.inj (hlast.symm.trans hk)
        cases hv.symm.trans hv'
      | excess hk _ hr =>
        obtain rfl := Option.some.inj (hlast.symm.trans hk)
        rw [rank_length, ← h.counts] at hr
        omega

/-- One more connection is numbered, or it is the first flaw. -/
theorem Covers.add {n : Numbering} {cs : List Connection} (h : n.Covers cs)
    (c : Connection) :
    match n.add c with
    | .ok n' => n'.Covers (cs ++ [c])
    | .error e => FirstFlaw (cs ++ [c]) e := by
  have hlast : (cs ++ [c])[cs.length]? = some c := List.getElem?_concat_length
  have hearlier : ∀ j < cs.length, ∀ e, ¬ Flaw (cs ++ [c]) j e := fun j hj e hf =>
    h.sound j e ((flaw_append_iff hj).mp hf)
  unfold Numbering.add
  rcases hv : c.validate with e | u
  · exact ⟨cs.length, .refused hlast hv, hearlier⟩
  · -- a valid connection gets the next port id, unless the counter says that
    -- all are taken
    dsimp only
    by_cases hcount : n.counts.getD c.destination.federate 0 < maxActions
    · rw [if_pos hcount]
      exact h.next hv hcount
    · rw [if_neg hcount]
      refine ⟨cs.length, .excess hlast hv ?_, hearlier⟩
      have hb := h.bounded c.destination.federate
      rw [← h.counts] at hb
      rw [rank_length, ← h.counts]
      omega

end Numbering

/-- The pass numbers all connections, or it fails with the first flaw. -/
theorem foldlM_cases (cs : List Connection) :
    match cs.foldlM Numbering.add {} with
    | .ok n => n.Covers cs
    | .error e => FirstFlaw cs e := by
  -- the pass goes from the left, so the invariant is carried to one more
  -- connection at the right
  induction cs using List.reverseRecOn with
  | nil => exact Numbering.covers_nil
  | append_singleton cs c ih =>
    rw [List.foldlM_append]
    rcases hcs : cs.foldlM Numbering.add {} with e | n
    · rw [hcs] at ih
      exact ih.append [c]
    · rw [hcs] at ih
      have hadd := ih.add c
      simp only [List.foldlM_cons, List.foldlM_nil, bind_pure]
      exact hadd

theorem number_ok {cs : List Connection} {numbered : List Outlet}
    (h : number cs = .ok numbered) : Numbered cs numbered := by
  have hcases := foldlM_cases cs
  unfold number at h
  rcases hcs : cs.foldlM Numbering.add {} with e | n
  · rw [hcs] at h
    cases h
  · rw [hcs] at h hcases
    cases h
    exact hcases.toNumbered

theorem number_error_iff {cs : List Connection} {e : PlanError} :
    number cs = .error e ↔ FirstFlaw cs e := by
  have hcases := foldlM_cases cs
  unfold number
  rcases hcs : cs.foldlM Numbering.add {} with e' | n
  · rw [hcs] at hcases
    constructor
    · intro h
      cases h
      exact hcases
    · intro h
      rw [hcases.unique h]
      rfl
  · rw [hcs] at hcases
    constructor
    · intro h
      cases h
    · rintro ⟨k, hk, -⟩
      exact absurd hk (hcases.sound k e)

/-! ### The lists of a plan -/

section Build

variable {f : FederateId} {cs : List Connection} {m : Coordination}
  {stp : Port → Interval}
variable {plan : Plan}

theorem build_error_iff {e : PlanError} :
    build f cs m stp = .error e ↔ FirstFlaw cs e := by
  rw [← number_error_iff, build]
  rcases number cs with e' | numbered
  · constructor <;> intro h <;> cases h <;> rfl
  · constructor <;> intro h <;> cases h

/-- A plan is made of a successful numbering. -/
theorem exists_numbered (h : build f cs m stp = .ok plan) :
    ∃ numbered, Numbered cs numbered ∧ plan =
      { federate := f, coordination := m
        outlets := numbered.filter (·.connection.leaves f)
        inlets := (numbered.filter (·.connection.leadsTo f)).map fun o =>
          ⟨o, maxStp m stp o.connection.destination.port⟩ } := by
  unfold build at h
  rcases hn : number cs with e | numbered
  · rw [hn] at h
    cases h
  · rw [hn] at h
    cases h
    exact ⟨numbered, number_ok hn, rfl⟩

theorem federate_of_build (h : build f cs m stp = .ok plan) :
    plan.federate = f := by
  obtain ⟨numbered, -, rfl⟩ := exists_numbered h
  rfl

theorem coordination_of_build (h : build f cs m stp = .ok plan) :
    plan.coordination = m := by
  obtain ⟨numbered, -, rfl⟩ := exists_numbered h
  rfl

theorem validate_of_build (h : build f cs m stp = .ok plan) {c : Connection}
    (hc : c ∈ cs) :
    c.validate = .ok () := by
  obtain ⟨numbered, hn, -⟩ := exists_numbered h
  exact hn.validate hc

/-- No connection of a federation leads back to where it comes from. -/
theorem not_leadsTo_of_leaves (h : build f cs m stp = .ok plan) {g : FederateId}
    {c : Connection} (hc : c ∈ cs) (hleaves : c.leaves g = true) :
    ¬ c.leadsTo g = true := by
  have hne := (validate_ok_iff.mp (validate_of_build h hc)).1
  rw [leaves_iff] at hleaves
  rw [leadsTo_iff]
  exact fun hleads => hne (hleaves.trans hleads.symm)

/-- The outlets are the connections that leave the federate, in order. -/
theorem outlets_map_connection (h : build f cs m stp = .ok plan) :
    plan.outlets.map (·.connection) = cs.filter (leaves f) := by
  obtain ⟨numbered, hn, rfl⟩ := exists_numbered h
  exact hn.map_filter (leaves f)

/-- The inlets are the connections that lead to the federate, in order. -/
theorem inlets_map_connection (h : build f cs m stp = .ok plan) :
    plan.inlets.map (·.connection) = cs.filter (leadsTo f) := by
  obtain ⟨numbered, hn, rfl⟩ := exists_numbered h
  rw [List.map_map]
  exact hn.map_filter (leadsTo f)

/-- What is said of something that was picked is said of a connection that
satisfies the condition. -/
theorem exists_iff_of_map_eq_filter {α : Type} {l : List α}
    {connection : α → Connection} {p : Connection → Bool}
    (h : l.map connection = cs.filter p) {P : Connection → Prop} :
    (∃ a ∈ l, P (connection a)) ↔ ∃ c ∈ cs, p c = true ∧ P c := by
  have hmap : (∃ c ∈ l.map connection, P c) ↔ ∃ c ∈ cs.filter p, P c := by rw [h]
  simpa only [List.mem_map, exists_exists_and_eq_and, List.mem_filter, and_assoc]
    using hmap

/-- A connection that leaves the federate is found among the outlets at its rank. -/
theorem outlet_of_entry (h : build f cs m stp = .ok plan) {k : Nat} {c : Connection}
    (hk : cs[k]? = some c) (hc : c.leaves f = true) :
    plan.outlets[rank (leaves f) cs k]? = some ⟨c, portAt cs k c⟩ := by
  obtain ⟨numbered, hn, rfl⟩ := exists_numbered h
  exact hn.getElem?_filter hk hc

/-- A connection that leads to the federate is found among the inlets at its
rank. -/
theorem inlet_of_entry (h : build f cs m stp = .ok plan) {k : Nat} {c : Connection}
    (hk : cs[k]? = some c) (hc : c.leadsTo f = true) :
    plan.inlets[rank (leadsTo f) cs k]?
      = some ⟨⟨c, portAt cs k c⟩, maxStp m stp c.destination.port⟩ := by
  obtain ⟨numbered, hn, rfl⟩ := exists_numbered h
  rw [List.getElem?_map, hn.getElem?_filter hk hc]
  rfl

/-- Every outlet is that of a connection which leaves the federate. -/
theorem entry_of_outlet (h : build f cs m stp = .ok plan) {j : Nat} {o : Outlet}
    (hj : plan.outlets[j]? = some o) :
    ∃ k c, cs[k]? = some c ∧ c.leaves f = true ∧ rank (leaves f) cs k = j ∧
      o = ⟨c, portAt cs k c⟩ := by
  obtain ⟨numbered, hn, rfl⟩ := exists_numbered h
  exact hn.entry_of_getElem?_filter hj

/-- Every inlet is that of a connection which leads to the federate. -/
theorem entry_of_inlet (h : build f cs m stp = .ok plan) {j : Nat} {i : Inlet}
    (hj : plan.inlets[j]? = some i) :
    ∃ k c, cs[k]? = some c ∧ c.leadsTo f = true ∧ rank (leadsTo f) cs k = j ∧
      i = ⟨⟨c, portAt cs k c⟩, maxStp m stp c.destination.port⟩ := by
  obtain ⟨numbered, hn, rfl⟩ := exists_numbered h
  rw [List.getElem?_map, Option.map_eq_some_iff] at hj
  obtain ⟨o, ho, rfl⟩ := hj
  obtain ⟨k, c, hk, hc, hr, rfl⟩ := hn.entry_of_getElem?_filter ho
  exact ⟨k, c, hk, hc, hr, rfl⟩

theorem ordinal_portAt_of_build (h : build f cs m stp = .ok plan) {k : Nat}
    {c : Connection} (hk : cs[k]? = some c) :
    (portAt cs k c).ordinal = rank (leadsTo c.destination.federate) cs k := by
  obtain ⟨numbered, hn, -⟩ := exists_numbered h
  exact hn.ordinal_portAt hk

end Build

end Plan

end Federation
