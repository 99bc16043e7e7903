/-
Federation/Proofs/Gate.lean

The gate of an inlet, and when it opens.

Before the reactions behind a logical inlet run, the status of the inlet at the
current tag is waited for. The wait looks at the board again and again, and
between two looks anything may happen: messages and notices come, other waits
give up, the clock goes on. So a wait is a row of looks, and for each of them it
is written down what it finds (`Visit`).

The main result is `gate_opens_at_deadline`. The deadline is the exact sum of
the time of the tag and the offsets, or the last instant there is if the sum
lies beyond it. The wait ends at the first look that finds the status known, the
federate ending, or the deadline reached (`Visit.Opens`); each look before it
leaves all as it is, and asks to be woken after a positive time, but not after
the deadline. The port is resolved as absent exactly if the wait ends so. If it
ends for the deadline, then the board has the tag as known from then on, and
whoever waits for the inlet at the tag or an earlier one is let through at the
first look (`Board.Settled`).

Design: one lemma says what a look can come to (`Inlet.look_cases`), and all
else is read off it, a row of looks by induction.
-/
import Mathlib
import Federation.Input
import Federation.Proofs.Violation

namespace Federation

variable {μ : Type}

/-! ### What stays known -/

namespace Board

variable {b : Board} {port port' : PortId} {tag tag' t : Tag} {message : Bool}
  {w : Wait} {now : Instant}

/-- Whether the status of an input is known through a tag, whatever is forgotten. -/
def Settled (b : Board) (port : PortId) (tag : Tag) : Prop :=
  ∃ r, b.ports[port]? = some r ∧ tag ≤ r.knownThrough

theorem Settled.status_ne_unknown (h : b.Settled port tag) (hle : tag' ≤ tag) :
    b.status port tag' ≠ .unknown := by
  obtain ⟨r, hrecord, hknown⟩ := h
  rw [status, hrecord, Ne, PortRecord.status_eq_unknown_iff]
  exact fun hunknown => hunknown.2 (Tag.le_trans hle hknown)

theorem settled_mark (b : Board) (port : PortId) (tag : Tag) (message : Bool) :
    (b.mark port tag message).Settled port tag :=
  ⟨_, getElem?_update_self _ b _,
    PortRecord.le_knownThrough_mark_iff.mpr (.inr (Tag.le_refl tag))⟩

theorem Settled.mark (h : b.Settled port tag) (port' : PortId) (t : Tag)
    (message : Bool) :
    (b.mark port' t message).Settled port tag := by
  obtain ⟨r, hrecord, hknown⟩ := h
  by_cases hport : port = port'
  · subst hport
    have hr : b.record port = r := by
      rw [record, Std.ExtTreeMap.getD_eq_getD_getElem?, hrecord]
      rfl
    refine ⟨_, getElem?_update_self _ b _,
      PortRecord.le_knownThrough_mark_iff.mpr (.inl ?_)⟩
    rw [hr]
    exact hknown
  · exact ⟨r, (getElem?_mark_of_ne hport).trans hrecord, hknown⟩

/-- What is known stays so, whatever happens to the board. -/
theorem Settled.step (h : b.Settled port tag) (e : BoardEvent) :
    (b.step e).Settled port tag := by
  rcases step_cases b e with
    ⟨port', t, message, -, hstep⟩ | ⟨t, -, hstep⟩ | ⟨-, -, hports⟩
  · rw [hstep]
    exact h.mark port' t message
  · -- to forget messages does not touch what is known
    obtain ⟨r, hrecord, hknown⟩ := h
    refine ⟨r.pruneBefore t, ?_, hknown⟩
    rw [hstep, pruneBefore, Std.ExtTreeMap.getElem?_map, hrecord]
    rfl
  · unfold Settled
    rw [hports]
    exact h

theorem Settled.run (h : b.Settled port tag) (events : List BoardEvent) :
    (b.run events).Settled port tag := by
  induction events generalizing b with
  | nil => exact h
  | cons e events ih => exact ih (h.step e)

/-- Who waits for what is known is let through at the first look, early or late. -/
theorem Settled.resolves (h : b.Settled w.port tag) (hle : w.tag ≤ tag)
    (now : Instant) :
    ∃ status, (b.check w now).2 = .resolved status := by
  have hknown := h.status_ne_unknown hle
  rcases check_cases b w now with
    ⟨-, hcheck⟩ | ⟨-, -, hcheck⟩ | ⟨htimeout, -⟩ | ⟨-, hunknown, -, -⟩
  · exact ⟨_, congrArg Prod.snd hcheck⟩
  · exact ⟨_, congrArg Prod.snd hcheck⟩
  · exact absurd htimeout.unknown hknown
  · exact absurd hunknown hknown

end Board

/-! ### The deadline -/

/-- Forwards, a sum stops at the last instant only. -/
theorem Instant.ns_saturatingAdd_of_nonneg (t : Instant) {d : Interval}
    (h : 0 ≤ d.ns) :
    (t.saturatingAdd d).ns = min (t.ns + d.ns) 9223372036854775807 := by
  have hfirst := t.inRange.1
  rw [ns_saturatingAdd, Nanos.clamp]
  omega

@[simp] theorem Instant.saturatingAdd_zero (t : Instant) :
    t.saturatingAdd .zero = t := by
  apply Instant.ext
  rw [ns_saturatingAdd, Interval.ns_zero, Int.add_zero]
  exact Nanos.clamp_of_inRange t.inRange

/-- What is left until a later instant is positive, and no more than there is. -/
theorem Instant.since_pos {t now : Instant} (h : ¬ t ≤ now) :
    0 < (t.since now).ns ∧ (t.since now).ns ≤ t.ns - now.ns := by
  have hlt : now.ns < t.ns := Int.not_le.mp h
  rw [ns_since, Nanos.clamp]
  omega

namespace Inlet

variable {i : Inlet} {ctx : Context μ} {tag : Tag}

/-- Where federates advance on their own, the offsets are added one after the
other, and still the deadline is the exact sum as long as there is such an
instant. -/
theorem ns_deadline_decentralized (h : ctx.coordination = .decentralized)
    (hoffset : 0 ≤ ctx.stpOffset.ns) (hmax : 0 ≤ i.maxStp.ns) :
    (i.deadline ctx tag).ns
      = min (tag.time.ns + ctx.stpOffset.ns + i.maxStp.ns) 9223372036854775807 := by
  have heffective : ∀ d, ctx.effective d = d := fun d => by
    simp [Context.effective, Context.isDecentralized, h]
  rw [deadline, Context.effectiveStpOffset, heffective, heffective,
    Instant.ns_saturatingAdd_of_nonneg _ hmax,
    Instant.ns_saturatingAdd_of_nonneg _ hoffset]
  -- a first sum that was cut off stays at the last instant, as the second
  -- offset does not point backwards
  omega

theorem deadline_centralized (h : ctx.coordination = .centralized) :
    i.deadline ctx tag = tag.time := by
  have heffective : ∀ d, ctx.effective d = .zero := fun d => by
    simp [Context.effective, Context.isDecentralized, h]
  rw [deadline, Context.effectiveStpOffset, heffective, heffective,
    Instant.saturatingAdd_zero, Instant.saturatingAdd_zero]

end Inlet

/-! ### One look -/

/-- What a wait finds when it looks: what the clock shows, the board and the
ports. -/
structure Visit (μ : Type) where
  now : Instant
  board : Board
  ports : PortStore μ

/-- Whether a wait that looks is let through. -/
def Visit.Opens (v : Visit μ) (w : Wait) : Prop :=
  v.board.shuttingDown = true ∨ v.board.status w.port w.tag ≠ .unknown ∨
    w.deadline ≤ v.now

namespace Inlet

variable {i : Inlet} {w : Wait} {v : Visit μ}

/-- What a look can come to. Either it is let through, and leaves a trace on the
board only if it gives up at the deadline; or it is not, and leaves no trace at
all. -/
theorem look_cases (i : Inlet) (w : Wait) (v : Visit μ) :
    (v.Opens w ∧ ∃ status board,
      i.look w v.now v.board v.ports
        = (.resolved status, board, i.resolve status v.ports) ∧
      (¬ v.board.TimesOut w v.now → board = v.board)) ∨
    (¬ v.Opens w ∧
      i.look w v.now v.board v.ports
        = (.pending (w.deadline.since v.now), v.board, v.ports)) := by
  rcases v.board.check_cases w v.now with ⟨hdown, hcheck⟩ | ⟨-, hknown, hcheck⟩ |
    ⟨htimeout, hcheck⟩ | ⟨hrunning, hunknown, hearly, hcheck⟩
  · exact .inl ⟨.inl hdown, .absent, v.board, by rw [look, hcheck], fun _ => rfl⟩
  · exact .inl ⟨.inr (.inl hknown), _, v.board, by rw [look, hcheck], fun _ => rfl⟩
  · exact .inl ⟨.inr (.inr htimeout.due), .absent, _, by rw [look, hcheck],
      fun h => absurd htimeout h⟩
  · refine .inr ⟨?_, by rw [look, hcheck]⟩
    rintro (hdown | hknown | hdue)
    · cases hdown.symm.trans hrunning
    · exact hknown hunknown
    · exact hearly hdue

theorem look_of_opens (h : v.Opens w) : ∃ status board,
    i.look w v.now v.board v.ports
      = (.resolved status, board, i.resolve status v.ports) ∧
      (¬ v.board.TimesOut w v.now → board = v.board) := by
  rcases i.look_cases w v with ⟨-, hlook⟩ | ⟨hclosed, -⟩
  · exact hlook
  · exact absurd h hclosed

/-- A look that is not let through changes nothing, and the wait goes on for
some time. -/
theorem look_of_closed (h : ¬ v.Opens w) : ∃ remaining,
    0 < remaining.ns ∧ remaining.ns ≤ w.deadline.ns - v.now.ns ∧
      i.look w v.now v.board v.ports = (.pending remaining, v.board, v.ports) := by
  rcases i.look_cases w v with ⟨hopens, -⟩ | ⟨-, hlook⟩
  · exact absurd hopens h
  · have hearly : ¬ w.deadline ≤ v.now := fun hdue => h (.inr (.inr hdue))
    exact ⟨_, (Instant.since_pos hearly).1, (Instant.since_pos hearly).2, hlook⟩

/-- A port that was not taken for absent before is so afterwards if the wait
ends with an absence, and only then. -/
theorem absent_resolve_iff {status : PortStatus} {s : PortStore μ}
    (h : (s.state i.destination).absent = false) :
    ((i.resolve status s).state i.destination).absent = true ↔
      status = .absent := by
  unfold resolve
  split
  · next habsent =>
    refine iff_of_true ?_ habsent
    rw [PortStore.markAbsent, PortStore.update, PortStore.state,
      Std.ExtTreeMap.getD_insert_self]
  · next hother => exact iff_of_false (by simp [h]) hother

/-- A look that gives up at the deadline leaves the tag absent, and known for
good. -/
theorem look_of_timesOut (h : v.board.TimesOut w v.now) : ∃ board,
    i.look w v.now v.board v.ports
      = (.resolved .absent, board, i.resolve .absent v.ports) ∧
      board.status w.port w.tag = .absent ∧ board.Settled w.port w.tag := by
  refine ⟨v.board.mark w.port w.tag false, by rw [look, h.check_eq], ?_,
    Board.settled_mark _ _ _ _⟩
  have habsent := h.status_check
  rw [h.check_eq] at habsent
  exact habsent

/-! ### A row of looks -/

/-- How a wait ends that looks whenever it is woken; none if it still waits
after the last look. -/
def watch (i : Inlet) (w : Wait) :
    List (Visit μ) → Option (PortStatus × Board × PortStore μ)
  | [] => none
  | v :: later => match i.look w v.now v.board v.ports with
    | (.resolved status, board, ports) => some (status, board, ports)
    | (.pending _, _, _) => watch i w later

theorem watch_cons_of_opens {later : List (Visit μ)} {status : PortStatus}
    {board : Board} {ports : PortStore μ}
    (h : i.look w v.now v.board v.ports = (.resolved status, board, ports)) :
    i.watch w (v :: later) = some (status, board, ports) := by
  rw [watch, h]

theorem watch_cons_of_closed {later : List (Visit μ)} (h : ¬ v.Opens w) :
    i.watch w (v :: later) = i.watch w later := by
  obtain ⟨remaining, -, -, hlook⟩ := look_of_closed (i := i) h
  rw [watch, hlook]

/-- A wait ends at the first look that is let through, with what this look comes
to. -/
theorem watch_eq_some_iff {visits : List (Visit μ)} {status : PortStatus}
    {board : Board} {ports : PortStore μ} :
    i.watch w visits = some (status, board, ports) ↔
      ∃ earlier v later, visits = earlier ++ v :: later ∧
        (∀ u ∈ earlier, ¬ u.Opens w) ∧ v.Opens w ∧
        i.look w v.now v.board v.ports = (.resolved status, board, ports) := by
  induction visits with
  | nil =>
    refine iff_of_false nofun ?_
    rintro ⟨earlier, v, later, hsplit, -⟩
    simp at hsplit
  | cons first visits ih =>
    by_cases hopens : first.Opens w
    · -- no look comes before this one, so it decides
      obtain ⟨status', board', hlook, -⟩ := look_of_opens (i := i) hopens
      rw [watch_cons_of_opens hlook, Option.some.injEq]
      constructor
      · intro heq
        cases heq
        exact ⟨[], first, visits, rfl, fun u hu => absurd hu List.not_mem_nil,
          hopens, hlook⟩
      · rintro ⟨earlier, v, later, hsplit, hclosed, -, hlook'⟩
        rcases earlier with - | ⟨u, earlier⟩
        · obtain ⟨rfl, -⟩ := List.cons.inj hsplit
          rw [hlook] at hlook'
          cases hlook'
          rfl
        · obtain ⟨rfl, -⟩ := List.cons.inj hsplit
          exact absurd hopens (hclosed first List.mem_cons_self)
    · -- the first look lets nothing through, so the end comes among the others
      rw [watch_cons_of_closed hopens, ih]
      constructor
      · rintro ⟨earlier, v, later, rfl, hclosed, hv⟩
        refine ⟨first :: earlier, v, later, rfl, ?_, hv⟩
        exact List.forall_mem_cons.mpr ⟨hopens, hclosed⟩
      · rintro ⟨earlier, v, later, hsplit, hclosed, hv, hlook⟩
        rcases earlier with - | ⟨u, earlier⟩
        · obtain ⟨rfl, -⟩ := List.cons.inj hsplit
          exact absurd hv hopens
        · obtain ⟨rfl, rfl⟩ := List.cons.inj hsplit
          exact ⟨earlier, v, later, rfl, (List.forall_mem_cons.mp hclosed).2,
            hv, hlook⟩

/-- If nothing else happens, the second look comes at the deadline and ends the
wait. -/
theorem await_eq_watch (i : Inlet) (ctx : Context μ) (now : Instant) (b : Board)
    (s : PortStore μ) :
    i.watch (i.wait ctx s.tag) [⟨now, b, s⟩, ⟨(i.wait ctx s.tag).deadline, b, s⟩]
      = some (i.await ctx now b s) := by
  generalize hw : i.wait ctx s.tag = w
  rw [await, hw, Board.waitAlone]
  rcases b.check_cases w now with ⟨-, hcheck⟩ | ⟨-, -, hcheck⟩ | ⟨-, hcheck⟩ |
    ⟨hrunning, hunknown, hearly, hcheck⟩
  · -- a first look that is let through ends both, for whichever reason
    rw [hcheck]
    exact watch_cons_of_opens (by rw [look, hcheck])
  · rw [hcheck]
    exact watch_cons_of_opens (by rw [look, hcheck])
  · rw [hcheck]
    exact watch_cons_of_opens (by rw [look, hcheck])
  · have hdue :
        b.check w w.deadline = (b.markAbsent w.port w.tag, .resolved .absent) := by
      simp [Board.check, hrunning, hunknown,
        show w.deadline ≤ w.deadline from Int.le_refl _]
    have hclosed : ¬ (Visit.mk now b s).Opens w := by
      rintro (hdown | hknown | hdue)
      · cases hdown.symm.trans hrunning
      · exact hknown hunknown
      · exact hearly hdue
    -- the first look leaves the board as it is, so the second finds the same one
    rw [hcheck, watch_cons_of_closed hclosed]
    exact watch_cons_of_opens (by rw [look, hdue])

/-- **A gate that opens at its deadline.** Where federates advance on their own,
the deadline of a wait is the exact sum of the time of the tag and both offsets,
or the last instant if that lies beyond it; elsewhere it is the time of the tag.
The wait ends at the first look that finds the status known, the federate ending
or the deadline reached, and the port is absent exactly if it ends so. Once a
deadline has decided, any wait for this tag or an earlier one is over at its first
look. -/
theorem gate_opens_at_deadline (i : Inlet) (ctx : Context μ) (tag : Tag)
    (hoffset : 0 ≤ ctx.stpOffset.ns) (hmax : 0 ≤ i.maxStp.ns) :
    let w := i.wait ctx tag
    (ctx.coordination = .decentralized → w.deadline.ns =
      min (tag.time.ns + ctx.stpOffset.ns + i.maxStp.ns) Instant.forever.ns) ∧
    (ctx.coordination = .centralized → w.deadline = tag.time) ∧
    (∀ now b (s : PortStore μ), s.tag = tag →
      i.watch w [⟨now, b, s⟩, ⟨w.deadline, b, s⟩] = some (i.await ctx now b s)) ∧
    (∀ (visits : List (Visit μ)) status board ports,
      i.watch w visits = some (status, board, ports) ↔
      ∃ earlier v later, visits = earlier ++ v :: later ∧
        (∀ u ∈ earlier, ¬ u.Opens w) ∧ v.Opens w ∧
        i.look w v.now v.board v.ports = (.resolved status, board, ports)) ∧
    ∀ v : Visit μ,
      (¬ v.Opens w →
        ∃ remaining, 0 < remaining.ns ∧ remaining.ns ≤ w.deadline.ns - v.now.ns ∧
          i.look w v.now v.board v.ports = (.pending remaining, v.board, v.ports)) ∧
      (v.Opens w → ∃ status board ports,
        i.look w v.now v.board v.ports = (.resolved status, board, ports) ∧
        (status = .absent → ports = v.ports.markAbsent i.destination) ∧
        (status ≠ .absent → ports = v.ports) ∧
        ((v.ports.state i.destination).absent = false →
          ((ports.state i.destination).absent = true ↔ status = .absent)) ∧
        (¬ v.board.TimesOut w v.now → board = v.board) ∧
        (v.board.TimesOut w v.now →
          status = .absent ∧ board.status i.port tag = .absent ∧
          ∀ events w' now', w'.port = i.port → w'.tag ≤ tag → ∃ status',
            ((board.run events).check w' now').2 = .resolved status')) := by
  refine ⟨fun h => ns_deadline_decentralized h hoffset hmax,
    deadline_centralized, ?_,
    fun visits status board ports => watch_eq_some_iff,
    fun v => ⟨look_of_closed, fun hopens => ?_⟩⟩
  · rintro now b s rfl
    exact await_eq_watch i ctx now b s
  · obtain ⟨status, board, hlook, hquiet⟩ := look_of_opens (i := i) hopens
    refine ⟨status, board, _, hlook, fun h => if_pos h, fun h => if_neg h,
      absent_resolve_iff, hquiet,
      fun htimeout => ?_⟩
    -- the same look, told from what a deadline does
    obtain ⟨board', hlook', habsent, hsettled⟩ := look_of_timesOut (i := i) htimeout
    cases hlook.symm.trans hlook'
    refine ⟨rfl, habsent, fun events w' now' hport hle => ?_⟩
    have hsettled' : (board.run events).Settled w'.port tag :=
      hport ▸ hsettled.run events
    exact hsettled'.resolves hle now'

/-- An inlet with the longest offset that there is. -/
def patientInlet : Inlet where
  connection :=
    { source := ⟨⟨0⟩, { name := "first.out" }⟩
      destination := ⟨⟨2⟩, { name := "last.near" }⟩
      valueType := .text }
  port := ⟨0⟩
  maxStp := .clamp 9223372036854775807

/-- The deadline is exact where the offsets only just fit, and the last instant
where they do not. There the wait gives up, and no later wait for the tag has to
wait, though its deadline is the same. -/
theorem gate_opens_at_deadline_at_edges :
    let ctx : Context Empty := ⟨⟨2⟩, .decentralized, ⟨5, by decide⟩, {}⟩
    let w := patientInlet.wait ctx ⟨.epoch, 0⟩
    (patientInlet.wait ctx ⟨⟨-7, by decide⟩, 0⟩).deadline.ns = 9223372036854775805 ∧
    w.deadline.ns = 9223372036854775807 ∧
    (∃ status board, ∃ ports : PortStore Empty,
      patientInlet.look w .forever .empty (.fresh ⟨.epoch, 0⟩)
        = (.resolved status, board, ports) ∧
      ((ports.state patientInlet.destination).absent = true ↔ status = .absent) ∧
      status = .absent ∧
      ∃ status', (board.check w .epoch).2 = .resolved status') := by
  intro ctx w
  have hearly :=
    gate_opens_at_deadline patientInlet ctx ⟨⟨-7, by decide⟩, 0⟩ (by decide)
      (by decide)
  obtain ⟨hdeadline, -, -, -, hlook⟩ :=
    gate_opens_at_deadline patientInlet ctx ⟨.epoch, 0⟩ (by decide) (by decide)
  have htimeout : Board.empty.TimesOut w .forever := ⟨rfl, by decide, by decide⟩
  obtain ⟨status, board, ports, hlook, -, -, hport, -, hsettled⟩ :=
    (hlook ⟨.forever, .empty, .fresh ⟨.epoch, 0⟩⟩).2 (.inr (.inr htimeout.due))
  obtain ⟨habsent, -, hlater⟩ := hsettled htimeout
  exact ⟨hearly.1 rfl, hdeadline rfl, status, board, ports, hlook,
    hport (by decide), habsent,
    hlater [] w .epoch rfl (Tag.le_refl _)⟩

end Inlet

end Federation
