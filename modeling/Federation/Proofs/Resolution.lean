/-
Federation/Proofs/Resolution.lean

What is known once all inputs are taken for absent.

A federate takes all its inputs for absent through a tag by marking its actions
one after another. The marks are for different inputs and for one tag, so they
add up to one mark for each of them: after a row of inputs was marked
(`markAllAbsent`)

* a tag is present if it was (`present_markAllAbsent_iff`);
* a tag is unknown if it was, unless the input is in the row and the tag is not
  behind the one that is marked (`unknown_markAllAbsent_iff`);
* inputs outside the row are as they were (`getElem?_markAllAbsent`).

The row is that of the actions of a plan, which are counted up and made port ids
(`mem_actions_iff`). A plan has no more of them than there are port ids, so the
port id of an action has the number that was counted (`ordinal_of_lt`).
-/
import Mathlib
import Federation.Dispatch
import Federation.Proofs.Agreement
import Federation.Proofs.Marks

namespace Federation

/-! ### Several inputs -/

namespace PortStatus

variable {status status' : PortStatus}

theorem eq_absent (hpresent : status ≠ .present) (hunknown : status ≠ .unknown) :
    status = .absent := by
  cases status with
  | unknown => exact absurd rfl hunknown
  | present => exact absurd rfl hpresent
  | absent => rfl

theorem eq_of_iff (hpresent : status = .present ↔ status' = .present)
    (hunknown : status = .unknown ↔ status' = .unknown) : status = status' := by
  cases status with
  | unknown => exact (hunknown.mp rfl).symm
  | present => exact (hpresent.mp rfl).symm
  | absent =>
    exact (eq_absent (fun h => nomatch hpresent.mpr h) fun h =>
      nomatch hunknown.mpr h).symm

end PortStatus

namespace Board

variable {b : Board} {port : PortId} {inputs : List PortId} {t g : Tag}

/-- Takes the inputs for absent through a tag, one after another. -/
def markAllAbsent (b : Board) (t : Tag) (inputs : List PortId) : Board :=
  inputs.foldl (fun b port => b.markAbsent port t) b

@[simp] theorem markAllAbsent_concat (b : Board) (t : Tag) (inputs : List PortId)
    (port : PortId) :
    b.markAllAbsent t (inputs ++ [port])
      = (b.markAllAbsent t inputs).mark port t false :=
  List.foldl_concat ..

theorem present_markAllAbsent_iff :
    (b.markAllAbsent t inputs).status port g = .present ↔
      b.status port g = .present := by
  induction inputs using List.reverseRecOn with
  | nil => rfl
  | append_singleton inputs other ih =>
    rw [markAllAbsent_concat, ← ih]
    by_cases hport : port = other
    · subst hport
      rw [present_mark_iff]
      exact or_iff_left nofun
    · rw [status_mark_of_ne hport]

theorem unknown_markAllAbsent_iff :
    (b.markAllAbsent t inputs).status port g = .unknown ↔
      b.status port g = .unknown ∧ (port ∈ inputs → ¬ g ≤ t) := by
  induction inputs using List.reverseRecOn with
  | nil => exact (and_iff_left nofun).symm
  | append_singleton inputs other ih =>
    rw [markAllAbsent_concat, List.mem_append, List.mem_singleton]
    by_cases hport : port = other
    · subst hport
      rw [unknown_mark_iff, ih]
      tauto
    · rw [status_mark_of_ne hport, ih, or_iff_left hport]

/-- Nothing that is recorded of other inputs changes. -/
theorem getElem?_markAllAbsent (h : port ∉ inputs) :
    (b.markAllAbsent t inputs).ports[port]? = b.ports[port]? := by
  induction inputs using List.reverseRecOn with
  | nil => rfl
  | append_singleton inputs other ih =>
    rw [List.mem_append, List.mem_singleton, not_or] at h
    rw [markAllAbsent_concat, getElem?_mark_of_ne h.2, ih h.1]

theorem shuttingDown_markAllAbsent :
    (b.markAllAbsent t inputs).shuttingDown = b.shuttingDown := by
  induction inputs using List.reverseRecOn with
  | nil => rfl
  | append_singleton inputs other ih => rw [markAllAbsent_concat, mark, update, ih]

/-- Through the tag, what was not present is absent. -/
theorem status_markAllAbsent_of_le (hport : port ∈ inputs) (hle : g ≤ t) :
    (b.markAllAbsent t inputs).status port g = if b.status port g = .present
      then .present else .absent := by
  split
  · next hpresent => exact present_markAllAbsent_iff.mpr hpresent
  · next hpresent =>
    refine PortStatus.eq_absent
      (fun h => hpresent (present_markAllAbsent_iff.mp h)) fun hunknown => ?_
    exact (unknown_markAllAbsent_iff.mp hunknown).2 hport hle

/-- Behind the tag, all is as it was. -/
theorem status_markAllAbsent_of_lt (hlt : t < g) :
    (b.markAllAbsent t inputs).status port g = b.status port g := by
  have hbehind : ¬ g ≤ t := fun hle => Tag.not_lt.mpr hle hlt
  refine PortStatus.eq_of_iff present_markAllAbsent_iff ?_
  rw [unknown_markAllAbsent_iff, and_iff_left fun _ => hbehind]

end Board

/-! ### The actions of a plan -/

namespace Plan

variable {f : FederateId} {cs : List Connection} {m : Coordination}
  {stp : Port → Interval}
variable {plan : Plan} {port : PortId}

/-- The port ids of the actions, in order. -/
def actions (plan : Plan) : List PortId :=
  (List.range plan.inlets.length).map fun i => ⟨UInt16.ofNat i⟩

theorem resolveAbsentThrough_eq (plan : Plan) (t : Tag) (b : Board) :
    plan.resolveAbsentThrough t b = b.markAllAbsent t plan.actions := by
  rw [Board.markAllAbsent, actions, List.foldl_map, resolveAbsentThrough]

/-- A plan has no more inlets than there are port ids. -/
theorem length_inlets_le (h : build f cs m stp = .ok plan) :
    plan.inlets.length ≤ maxActions := by
  obtain ⟨numbered, hn, -⟩ := exists_numbered h
  have hlength := congrArg List.length (inlets_map_connection h)
  rw [List.length_map, ← List.countP_eq_length_filter] at hlength
  rw [hlength]
  exact hn.bounded f

/-- The number of an action is not cut off. -/
theorem ordinal_of_lt (h : build f cs m stp = .ok plan) {n : Nat}
    (hn : n < plan.inlets.length) :
    (⟨UInt16.ofNat n⟩ : PortId).ordinal = n :=
  UInt16.toNat_ofNat_of_lt' (lt_of_lt_of_le hn (length_inlets_le h))

theorem inlet?_eq_none_iff :
    plan.inlet? port = none ↔ plan.inlets.length ≤ port.ordinal :=
  List.getElem?_eq_none_iff

theorem mem_actions_iff (h : build f cs m stp = .ok plan) :
    port ∈ plan.actions ↔ plan.inlet? port ≠ none := by
  rw [Ne, inlet?_eq_none_iff, Nat.not_le, actions, List.mem_map]
  constructor
  · rintro ⟨n, hn, rfl⟩
    rw [List.mem_range] at hn
    rwa [ordinal_of_lt h hn]
  · intro hlt
    exact ⟨port.ordinal, List.mem_range.mpr hlt, PortId.ext UInt16.ofNat_toNat⟩

/-- **All inputs taken for absent.** Let a federate with a plan take its inputs
for absent through a tag, whatever it knows of them. For every action of the
plan, a tag up to that one is present afterwards if it was present, and absent
if not; a later tag is as it was. Of ports that are no actions of the plan
nothing changes, and neither does whether the federate is about to end. There
are no more actions than port ids, so the port id of an action has the number
that was counted. -/
theorem resolves_absent_through (h : build f cs m stp = .ok plan) (b : Board)
    (t : Tag) :
    let b' := plan.resolveAbsentThrough t b
    (∀ port i, plan.inlet? port = some i →
      (∀ g, g ≤ t → b'.status port g =
        if b.status port g = .present then .present else .absent) ∧
      (∀ g, t < g → b'.status port g = b.status port g)) ∧
    (∀ port, plan.inlet? port = none → b'.ports[port]? = b.ports[port]?) ∧
    b'.shuttingDown = b.shuttingDown ∧
    plan.inlets.length ≤ maxActions ∧
    ∀ n < plan.inlets.length, (UInt16.ofNat n).toNat = n := by
  intro b'
  have hb' : b' = b.markAllAbsent t plan.actions := resolveAbsentThrough_eq plan t b
  rw [hb']
  refine ⟨fun port i hinlet => ?_, fun port hnone => ?_, ?_, length_inlets_le h,
    fun n => ordinal_of_lt h⟩
  · have hmem : port ∈ plan.actions :=
      (mem_actions_iff h).mpr (by rw [hinlet]; exact nofun)
    exact ⟨fun g => Board.status_markAllAbsent_of_le hmem,
      fun g => Board.status_markAllAbsent_of_lt⟩
  · exact Board.getElem?_markAllAbsent fun hmem => (mem_actions_iff h).mp hmem hnone
  · exact Board.shuttingDown_markAllAbsent

/-- A board that knows of a message for the first action, of a notice for the
second, and of a message for a port that is no action. -/
def wellInformed : Board :=
  (((Board.empty.markPresent ⟨0⟩ ⟨.epoch, 5⟩).1.markAbsent
    ⟨1⟩ ⟨.epoch, 8⟩).markPresent ⟨3⟩ ⟨.epoch, 4⟩).1

theorem resolves_absent_through_on_triangle :
    ∃ plan, build ⟨2⟩ triangle .decentralized (fun _ => .zero) = .ok plan ∧
      plan.inlets.length = 3 ∧
      let b' := plan.resolveAbsentThrough ⟨.epoch, 6⟩ wellInformed
      b'.status ⟨0⟩ ⟨.epoch, 5⟩ = .present ∧ b'.status ⟨0⟩ ⟨.epoch, 6⟩ = .absent ∧
      b'.status ⟨1⟩ ⟨.epoch, 8⟩ = .absent ∧ b'.status ⟨1⟩ ⟨.epoch, 9⟩ = .unknown ∧
      b'.status ⟨2⟩ .never = .absent ∧
      b'.ports[(⟨3⟩ : PortId)]? = wellInformed.ports[(⟨3⟩ : PortId)]? := by
  obtain ⟨plan, hplan, hlength, i₀, i₁, i₂, h₀, h₁, h₂, h₃⟩ :
      ∃ plan, build ⟨2⟩ triangle .decentralized (fun _ => .zero) = .ok plan ∧
        plan.inlets.length = 3 ∧
        ∃ i₀ i₁ i₂, plan.inlet? ⟨0⟩ = some i₀ ∧ plan.inlet? ⟨1⟩ = some i₁ ∧
          plan.inlet? ⟨2⟩ = some i₂ ∧ plan.inlet? ⟨3⟩ = none :=
          ⟨_, rfl, rfl, _, _, _, rfl, rfl, rfl, rfl⟩
  obtain ⟨hactions, hothers, -⟩ :=
    resolves_absent_through hplan wellInformed ⟨.epoch, 6⟩
  refine ⟨plan, hplan, hlength, ?_, ?_, ?_, ?_, ?_, hothers ⟨3⟩ h₃⟩
  · exact (hactions ⟨0⟩ i₀ h₀).1 ⟨.epoch, 5⟩ (by decide)
  · exact (hactions ⟨0⟩ i₀ h₀).1 ⟨.epoch, 6⟩ (by decide)
  · exact (hactions ⟨1⟩ i₁ h₁).2 ⟨.epoch, 8⟩ (by decide)
  · exact (hactions ⟨1⟩ i₁ h₁).2 ⟨.epoch, 9⟩ (by decide)
  · exact (hactions ⟨2⟩ i₂ h₂).1 .never (by decide)

end Plan

end Federation
