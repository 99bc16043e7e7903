/-
Federation/Proofs/History.lean

The board and its history.

A board keeps little of what happens to it: for each input the tag through which
the status is known, and the tags at which messages arrived and were not
forgotten since. Here all of it is written down, as a row of events: messages,
notices of absence, the forgetting of old messages, the shutdown, and every look
of those that wait. A look reads, and leaves a mark only if it finds that the
deadline has come (`TimesOut`).

Main result: what the board says of an input at a tag is what the row of events
says (`status_of_history`),

* present, if a message for the tag came and was not forgotten since (`Kept`);
* absent, if it is not present and the input was marked at the tag or later
  (`Reached`);
* unknown otherwise.

Design: an event does one of three things to a board, and `step_cases` says so
once. What makes the little that is kept enough is an invariant of the board
alone, that no message is recorded beyond what is known (`Bounded`). Hence a
message that is forgotten leaves its tag absent, and not unknown.
-/
import Mathlib
import Federation.Board.Wait
import Federation.Proofs.Marks

namespace Federation

/-! ### What happens to a board -/

/-- A change of the board by others than those that wait. -/
inductive BoardChange where
  | message (port : PortId) (tag : Tag)
  | notice (port : PortId) (tag : Tag)
  /-- The messages before a tag are forgotten. -/
  | prune (tag : Tag)
  | shutdown
deriving DecidableEq

/-- Something that happens to a board: a change, or a look by a wait when the
clock shows `now`. -/
inductive BoardEvent where
  | change (c : BoardChange)
  | look (w : Wait) (now : Instant)
deriving DecidableEq

/-- The input that an event is about, if it is about one only. -/
def BoardEvent.port? : BoardEvent → Option PortId
  | .change (.message port _) => some port
  | .change (.notice port _) => some port
  | .look w _ => some w.port
  | .change (.prune _) => none
  | .change .shutdown => none

namespace Board

/-- The board after a change. -/
def apply (b : Board) : BoardChange → Board
  | .message port tag => (b.markPresent port tag).1
  | .notice port tag => b.markAbsent port tag
  | .prune tag => b.pruneBefore tag
  | .shutdown => b.shutdown

/-- The board after an event. -/
def step (b : Board) : BoardEvent → Board
  | .change c => b.apply c
  | .look w now => (b.check w now).1

/-- The board after a row of events. -/
def run (b : Board) (events : List BoardEvent) : Board := events.foldl step b

variable {b b' : Board} {port port' : PortId} {tag tag' g t : Tag} {message : Bool}
variable {w : Wait} {now : Instant} {e : BoardEvent}
  {events later : List BoardEvent}

@[simp] theorem run_append (b : Board) (events later : List BoardEvent) :
    b.run (events ++ later) = (b.run events).run later := List.foldl_append

@[simp] theorem run_concat (b : Board) (events : List BoardEvent) (e : BoardEvent) :
    b.run (events ++ [e]) = (b.run events).step e := run_append b events [e]

/-! ### One look -/

/-- Whether a look ends a wait for no other reason than that its deadline has
come. -/
structure TimesOut (b : Board) (w : Wait) (now : Instant) : Prop where
  running : b.shuttingDown = false
  unknown : b.status w.port w.tag = .unknown
  due : w.deadline ≤ now

/-- A look that finds that the deadline has come takes the tag for absent. -/
theorem TimesOut.check_eq (h : b.TimesOut w now) :
    b.check w now = (b.mark w.port w.tag false, .resolved .absent) := by
  simp [check, h.running, h.unknown, h.due, markAbsent_eq]

/-- What a look can come to: the federate is ending, the status is known, the
deadline has come, or the wait goes on. -/
theorem check_cases (b : Board) (w : Wait) (now : Instant) :
    (b.shuttingDown = true ∧ b.check w now = (b, .resolved .absent)) ∨
    (b.shuttingDown = false ∧ b.status w.port w.tag ≠ .unknown ∧
      b.check w now = (b, .resolved (b.status w.port w.tag))) ∨
    (b.TimesOut w now ∧
      b.check w now = (b.mark w.port w.tag false, .resolved .absent)) ∨
    (b.shuttingDown = false ∧ b.status w.port w.tag = .unknown ∧
      ¬ w.deadline ≤ now ∧
      b.check w now = (b, .pending (w.deadline.since now))) := by
  rcases hdown : b.shuttingDown with - | -
  · rcases hstatus : b.status w.port w.tag with - | - | -
    · by_cases hdue : w.deadline ≤ now
      · have htimeout : b.TimesOut w now := ⟨hdown, hstatus, hdue⟩
        exact .inr (.inr (.inl ⟨htimeout, htimeout.check_eq⟩))
      · refine .inr (.inr (.inr ⟨rfl, rfl, hdue, ?_⟩))
        simp [check, hdown, hstatus, hdue]
    · refine .inr (.inl ⟨rfl, nofun, ?_⟩)
      simp [check, hdown, hstatus]
    · refine .inr (.inl ⟨rfl, nofun, ?_⟩)
      simp [check, hdown, hstatus]
  · refine .inl ⟨rfl, ?_⟩
    simp [check, hdown]

/-! ### One event -/

/-- The mark that an event makes: a message, a notice, or an absence that a
deadline decides. -/
inductive Marks (b : Board) : BoardEvent → PortId → Tag → Bool → Prop
  | message (port : PortId) (tag : Tag) :
      Marks b (.change (.message port tag)) port tag true
  | notice (port : PortId) (tag : Tag) :
      Marks b (.change (.notice port tag)) port tag false
  | timeout {w : Wait} {now : Instant} (h : b.TimesOut w now) :
      Marks b (.look w now) w.port w.tag false

theorem Marks.unique {message' : Bool} (h : b.Marks e port tag message)
    (h' : b.Marks e port' tag' message') :
    port = port' ∧ tag = tag' ∧ message = message' := by
  cases h <;> cases h' <;> exact ⟨rfl, rfl, rfl⟩

/-- What an event does to a board: it makes a mark, or old messages are
forgotten, or what is recorded stays. -/
theorem step_cases (b : Board) (e : BoardEvent) :
    (∃ port tag message,
      b.Marks e port tag message ∧ b.step e = b.mark port tag message) ∨
    (∃ tag, e = .change (.prune tag) ∧ b.step e = b.pruneBefore tag) ∨
    ((∀ port tag message, ¬ b.Marks e port tag message) ∧
      (∀ tag, e ≠ .change (.prune tag)) ∧
      (b.step e).ports = b.ports) := by
  cases e with
  | change c =>
    cases c with
    | message port tag =>
      exact .inl ⟨port, tag, true, .message port tag, markPresent_fst⟩
    | notice port tag =>
      exact .inl ⟨port, tag, false, .notice port tag, markAbsent_eq⟩
    | prune tag => exact .inr (.inl ⟨tag, rfl, rfl⟩)
    | shutdown =>
      refine .inr (.inr ⟨?_, fun _ => nofun, rfl⟩)
      rintro _ _ _ ⟨⟩
  | look w now =>
    have hquiet (h : ¬ b.TimesOut w now) (hcheck : (b.check w now).1 = b) :
        (∀ port tag message, ¬ b.Marks (.look w now) port tag message) ∧
          (∀ tag, BoardEvent.look w now ≠ .change (.prune tag)) ∧
          (b.step (.look w now)).ports = b.ports := by
      refine ⟨?_, fun _ => nofun, congrArg ports hcheck⟩
      rintro _ _ _ ⟨⟩
      contradiction
    -- of the ways that a look can go only giving up at the deadline makes a mark
    rcases check_cases b w now with
      ⟨hdown, hcheck⟩ | ⟨-, hknown, hcheck⟩ | ⟨htimeout, hcheck⟩ |
      ⟨-, -, hearly, hcheck⟩
    · refine .inr (.inr (hquiet (fun h => ?_) (congrArg Prod.fst hcheck)))
      cases hdown.symm.trans h.running
    · exact .inr
        (.inr (hquiet (fun h => hknown h.unknown) (congrArg Prod.fst hcheck)))
    · exact .inl ⟨w.port, w.tag, false, .timeout htimeout, congrArg Prod.fst hcheck⟩
    · exact .inr (.inr (hquiet (fun h => hearly h.due) (congrArg Prod.fst hcheck)))

theorem status_congr (h : b'.ports = b.ports) (port : PortId) (tag : Tag) :
    b'.status port tag = b.status port tag := by
  unfold status
  rw [h]

/-- The federate is ending once it was told so, and then for good. -/
theorem shuttingDown_step (b : Board) (e : BoardEvent) :
    (b.step e).shuttingDown = true ↔
      b.shuttingDown = true ∨ e = .change .shutdown := by
  cases e with
  | change c =>
    cases c with
    | shutdown => exact iff_of_true rfl (.inr rfl)
    | _ => exact (or_iff_left nofun).symm
  | look w now =>
    rw [or_iff_left nofun]
    rcases check_cases b w now with
      ⟨-, hcheck⟩ | ⟨-, -, hcheck⟩ | ⟨-, hcheck⟩ | ⟨-, -, -, hcheck⟩
    all_goals simp only [step, hcheck, mark, update]

theorem shuttingDown_run (b : Board) (events : List BoardEvent) :
    (b.run events).shuttingDown = true ↔
      b.shuttingDown = true ∨ .change .shutdown ∈ events := by
  induction events using List.reverseRecOn with
  | nil => simp [run]
  | append_singleton events e ih =>
    rw [run_concat, shuttingDown_step, ih, List.mem_append,
      List.mem_singleton, or_assoc]
    simp only [eq_comm]

/-! ### No message beyond what is known -/

/-- Whether no message is recorded beyond what is known. -/
def Bounded (b : Board) : Prop :=
  ∀ port, ∀ tag ∈ (b.record port).present, tag ≤ (b.record port).knownThrough

theorem bounded_empty : Board.empty.Bounded := by
  intro port tag h
  rw [record_empty] at h
  cases h

@[simp] theorem record_pruneBefore (b : Board) (t : Tag) (port : PortId) :
    (b.pruneBefore t).record port = (b.record port).pruneBefore t := by
  rw [record, record, pruneBefore, Std.ExtTreeMap.getD_map,
    Std.ExtTreeMap.getD_eq_getD_getElem?]
  cases b.ports[port]? <;> rfl

theorem Bounded.mark (h : b.Bounded) (port : PortId) (tag : Tag) (message : Bool) :
    (b.mark port tag message).Bounded := by
  intro port' g hg
  by_cases hport : port' = port
  · subst hport
    rw [Board.mark, record_update_self] at hg ⊢
    rw [PortRecord.le_knownThrough_mark_iff]
    rcases PortRecord.mem_present_mark_iff.mp hg with hg | ⟨-, rfl⟩
    · exact .inl (h port' g hg)
    · exact .inr (Tag.le_refl g)
  · rw [Board.mark, record_update_of_ne b _ hport] at hg ⊢
    exact h port' g hg

theorem Bounded.pruneBefore (h : b.Bounded) (tag : Tag) :
    (b.pruneBefore tag).Bounded := by
  intro port g hg
  rw [record_pruneBefore] at hg ⊢
  exact h port g (List.mem_of_mem_filter hg)

theorem Bounded.step (h : b.Bounded) (e : BoardEvent) : (b.step e).Bounded := by
  rcases step_cases b e with ⟨port, tag, message, -, hstep⟩ | ⟨tag, -, hstep⟩ |
    ⟨-, -, hports⟩
  · rw [hstep]
    exact h.mark port tag message
  · rw [hstep]
    exact h.pruneBefore tag
  · intro port g hg
    unfold record at hg ⊢
    rw [hports] at hg ⊢
    exact h port g hg

theorem present_pruneBefore_iff :
    (b.pruneBefore t).status port g = .present ↔
      b.status port g = .present ∧ ¬ g < t := by
  rw [status_eq_present_iff, status_eq_present_iff, record_pruneBefore]
  unfold PortRecord.pruneBefore
  rw [List.mem_filter, decide_eq_true_eq, Tag.not_lt]

/-- What is forgotten is not unknown: it lies within what is known. -/
theorem unknown_pruneBefore_iff (h : b.Bounded) :
    (b.pruneBefore t).status port g = .unknown ↔ b.status port g = .unknown := by
  have hbounded := h port g
  unfold record at hbounded
  rw [Std.ExtTreeMap.getD_eq_getD_getElem?] at hbounded
  unfold status
  rw [pruneBefore, Std.ExtTreeMap.getElem?_map]
  rcases hr : b.ports[port]? with - | r
  · exact Iff.rfl
  · rw [hr] at hbounded
    have hknown : g ∈ r.present → g ≤ r.knownThrough := hbounded
    change (r.pruneBefore t).status g = .unknown ↔ r.status g = .unknown
    rw [PortRecord.status_eq_unknown_iff, PortRecord.status_eq_unknown_iff]
    constructor
    · rintro ⟨-, hbeyond⟩
      exact ⟨fun hg => hbeyond (hknown hg), hbeyond⟩
    · rintro ⟨hg, hbeyond⟩
      exact ⟨fun hkept => hg (List.mem_of_mem_filter hkept), hbeyond⟩

/-! ### What the events say -/

/-- Whether a message for the tag came that was not forgotten since. -/
def Kept (events : List BoardEvent) (port : PortId) (tag : Tag) : Prop :=
  ∃ earlier later, events = earlier ++ .change (.message port tag) :: later ∧
    ∀ t, .change (.prune t) ∈ later → ¬ tag < t

/-- Whether the input was marked at the tag or later. The board that was empty
at first tells which looks timed out. -/
def Reached (events : List BoardEvent) (port : PortId) (tag : Tag) : Prop :=
  ∃ earlier e later t message, events = earlier ++ e :: later ∧
    (empty.run earlier).Marks e port t message ∧ tag ≤ t

theorem concat_eq_append_cons_iff {α : Type} {l earlier later : List α} {a x : α} :
    l ++ [a] = earlier ++ x :: later ↔
      (later = [] ∧ earlier = l ∧ x = a) ∨
        ∃ later', later = later' ++ [a] ∧ l = earlier ++ x :: later' := by
  constructor
  · intro h
    rcases List.eq_nil_or_concat' later with rfl | ⟨later', b, rfl⟩
    · obtain ⟨rfl, rfl⟩ := List.append_singleton_inj.mp h
      exact .inl ⟨rfl, rfl, rfl⟩
    · rw [← List.cons_append, ← List.append_assoc] at h
      obtain ⟨rfl, rfl⟩ := List.append_singleton_inj.mp h
      exact .inr ⟨later', rfl, rfl⟩
  · rintro (⟨rfl, rfl, rfl⟩ | ⟨later', rfl, rfl⟩)
    · rfl
    · rw [List.append_assoc, List.cons_append]

@[simp] theorem not_kept_nil : ¬ Kept [] port tag := by
  rintro ⟨earlier, later, h, -⟩
  simp at h

@[simp] theorem not_reached_nil : ¬ Reached [] port tag := by
  rintro ⟨earlier, e, later, t, message, h, -⟩
  simp at h

theorem kept_concat_iff :
    Kept (events ++ [e]) port tag ↔ e = .change (.message port tag) ∨
      Kept events port tag ∧ ∀ t, e = .change (.prune t) → ¬ tag < t := by
  constructor
  · rintro ⟨earlier, later, hsplit, hkept⟩
    rcases concat_eq_append_cons_iff.mp hsplit with
      ⟨rfl, rfl, rfl⟩ | ⟨later', rfl, rfl⟩
    · exact .inl rfl
    · refine .inr ⟨⟨earlier, later', rfl, fun t ht => hkept t (by simp [ht])⟩, ?_⟩
      rintro t rfl
      exact hkept t (by simp)
  · rintro (rfl | ⟨⟨earlier, later, rfl, hkept⟩, hlast⟩)
    · exact ⟨events, [], rfl, fun t ht => absurd ht List.not_mem_nil⟩
    · refine ⟨earlier, later ++ [e], by simp, fun t ht => ?_⟩
      rcases List.mem_append.mp ht with ht | ht
      · exact hkept t ht
      · exact hlast t (List.mem_singleton.mp ht).symm

theorem reached_concat_iff :
    Reached (events ++ [e]) port tag ↔ Reached events port tag ∨
      ∃ t message, (empty.run events).Marks e port t message ∧ tag ≤ t := by
  constructor
  · rintro ⟨earlier, e', later, t, message, hsplit, hmark, hle⟩
    rcases concat_eq_append_cons_iff.mp hsplit with
      ⟨rfl, rfl, rfl⟩ | ⟨later', rfl, rfl⟩
    · exact .inr ⟨t, message, hmark, hle⟩
    · exact .inl ⟨earlier, e', later', t, message, rfl, hmark, hle⟩
  · rintro (⟨earlier, e', later, t, message, rfl, hmark, hle⟩ |
      ⟨t, message, hmark, hle⟩)
    · exact ⟨earlier, e', later ++ [e], t, message, by simp, hmark, hle⟩
    · exact ⟨events, e, [], t, message, rfl, hmark, hle⟩

/-- Where nothing is forgotten, what is kept is what came. -/
theorem kept_iff_mem (h : ∀ t, .change (.prune t) ∈ events → ¬ tag < t) :
    Kept events port tag ↔ .change (.message port tag) ∈ events := by
  constructor
  · rintro ⟨earlier, later, rfl, -⟩
    simp
  · intro hmem
    obtain ⟨earlier, later, rfl⟩ := List.append_of_mem hmem
    exact ⟨earlier, later, rfl, fun t ht => h t (by simp [ht])⟩

/-! ### Both are the same -/

/-- Whether the board says what the events say, and is fit to go on with. -/
structure Tells (b : Board) (events : List BoardEvent) : Prop where
  bounded : b.Bounded
  present : ∀ port tag, b.status port tag = .present ↔ Kept events port tag
  unknown : ∀ port tag, b.status port tag = .unknown ↔ ¬ Reached events port tag

/-- One more event, if what it does to the statuses is what it says. -/
theorem Tells.concat (h : (empty.run events).Tells events) (e : BoardEvent) :
    (empty.run (events ++ [e])).Tells (events ++ [e]) := by
  have hbounded := h.bounded.step e
  rw [run_concat]
  rcases step_cases (empty.run events) e with
    ⟨port', tag', message, hmark, hstep⟩ | ⟨t, rfl, hstep⟩
      | ⟨hmarks, hprune, hports⟩
  · -- a mark: it is what the events say of its input, and nothing to the other
    -- inputs
    have hnoprune : ∀ t, e ≠ .change (.prune t) := by
      rintro t rfl
      cases hmark
    refine ⟨hbounded, fun port tag => ?_, fun port tag => ?_⟩
    · -- the tag of a message is present from now on
      rw [hstep, kept_concat_iff,
        and_iff_left fun t ht => absurd ht (hnoprune t), ← h.present]
      have hlast : e = .change (.message port tag) ↔
          port = port' ∧ message = true ∧ tag = tag' := by
        constructor
        · rintro rfl
          obtain ⟨rfl, rfl, rfl⟩ := hmark.unique (.message port tag)
          exact ⟨rfl, rfl, rfl⟩
        · rintro ⟨rfl, rfl, rfl⟩
          cases hmark
          rfl
      rw [hlast]
      by_cases hport : port = port'
      · subst hport
        rw [present_mark_iff]
        tauto
      · rw [status_mark_of_ne hport]
        tauto
    · -- what lies behind the mark is as unknown as it was
      rw [hstep, reached_concat_iff, not_or, ← h.unknown]
      have hlast :
          (∃ t message, (empty.run events).Marks e port t message ∧ tag ≤ t) ↔
          port = port' ∧ tag ≤ tag' := by
        constructor
        · rintro ⟨t, message', hmark', hle⟩
          obtain ⟨rfl, rfl, -⟩ := hmark'.unique hmark
          exact ⟨rfl, hle⟩
        · rintro ⟨rfl, hle⟩
          exact ⟨tag', message, hmark, hle⟩
      rw [hlast]
      by_cases hport : port = port'
      · subst hport
        rw [unknown_mark_iff]
        tauto
      · rw [status_mark_of_ne hport]
        tauto
  · -- messages are forgotten: fewer tags are present, and as many are known
    refine ⟨hbounded, fun port tag => ?_, fun port tag => ?_⟩
    · rw [hstep, present_pruneBefore_iff, h.present, kept_concat_iff,
        or_iff_right nofun]
      refine and_congr_right fun _ => ⟨?_, fun hlast => hlast t rfl⟩
      rintro hnot _ ⟨⟩
      exact hnot
    · rw [hstep, unknown_pruneBefore_iff h.bounded, h.unknown,
        reached_concat_iff, or_iff_left]
      rintro ⟨_, _, ⟨⟩, -⟩
  · -- nothing that is recorded changes, and the events say no more than before
    refine ⟨hbounded, fun port tag => ?_, fun port tag => ?_⟩
    · rw [status_congr hports, h.present, kept_concat_iff, or_iff_right,
        and_iff_left fun t ht => absurd ht (hprune t)]
      rintro rfl
      exact hmarks port tag true (.message port tag)
    · rw [status_congr hports, h.unknown, reached_concat_iff, or_iff_left]
      rintro ⟨t, message, hmark, -⟩
      exact hmarks port t message hmark

theorem tells_run (events : List BoardEvent) : (empty.run events).Tells events := by
  induction events using List.reverseRecOn with
  | nil =>
    have hunknown (port : PortId) (tag : Tag) :
        (empty.run []).status port tag = .unknown :=
      status_empty port tag
    refine ⟨bounded_empty, fun port tag => ?_, fun port tag => ?_⟩
    · rw [hunknown]
      exact iff_of_false (by decide) not_kept_nil
    · exact iff_of_true (hunknown port tag) not_reached_nil
  | append_singleton events e ih => exact ih.concat e

/-! ### What follows for the statuses -/

/-- What marked an input once has marked it for good. -/
theorem Reached.append (h : Reached events port tag) (later : List BoardEvent) :
    Reached (events ++ later) port tag := by
  obtain ⟨earlier, e, between, t, message, rfl, hmark, hle⟩ := h
  exact ⟨earlier, e, between ++ later, t, message, by simp, hmark, hle⟩

theorem absent_run_iff :
    (empty.run events).status port tag = .absent ↔
      ¬ Kept events port tag ∧ Reached events port tag := by
  have htells := tells_run events
  have hreached : Reached events port tag ↔
      (empty.run events).status port tag ≠ .unknown := by
    rw [Ne, htells.unknown, not_not]
  rw [← htells.present, hreached]
  cases (empty.run events).status port tag <;> simp

/-- An event that is about one input is not seen at another. -/
theorem status_step_of_ne (h : e.port? = some port') (hne : port' ≠ port) :
    (b.step e).status port tag = b.status port tag := by
  rcases step_cases b e with
    ⟨p, t, message, hmark, hstep⟩ | ⟨t, rfl, -⟩ | ⟨-, -, hports⟩
  · have hp : p = port' := by
      cases hmark <;> exact Option.some.inj h
    subst hp
    rw [hstep]
    exact status_mark_of_ne hne.symm
  · cases h
  · exact status_congr hports port tag

/-- A notice takes no message back. -/
theorem present_markAbsent (h : b.status port tag = .present) (port' : PortId)
    (tag' : Tag) :
    (b.markAbsent port' tag').status port tag = .present := by
  rw [markAbsent_eq]
  by_cases hport : port = port'
  · subst hport
    exact present_mark_iff.mpr (.inl h)
  · rw [status_mark_of_ne hport, h]

/-- **The board and its history.** After any row of events a tag of an input is
present if a message for it came and was not forgotten since; else it is absent
if the input was marked, by a message, a notice or a deadline, at the tag or
later; else it is unknown. So what is about one input is not seen at another,
what is known stays known, and a notice takes no message back. -/
theorem status_of_history (events : List BoardEvent) (port : PortId) (tag : Tag) :
    ((empty.run events).status port tag = .present ↔ Kept events port tag) ∧
    ((empty.run events).status port tag = .absent ↔
      ¬ Kept events port tag ∧ Reached events port tag) ∧
    ((empty.run events).status port tag = .unknown ↔
      ¬ Kept events port tag ∧ ¬ Reached events port tag) ∧
    (∀ e port', e.port? = some port' → port' ≠ port →
      (empty.run (events ++ [e])).status port tag
        = (empty.run events).status port tag) ∧
    (∀ later, (empty.run events).status port tag ≠ .unknown →
      (empty.run (events ++ later)).status port tag ≠ .unknown) ∧
    (∀ port' tag', (empty.run events).status port tag = .present →
      (empty.run (events ++ [.change (.notice port' tag')])).status port tag
        = .present) := by
  have htells := tells_run events
  refine ⟨htells.present port tag, absent_run_iff, ?_, ?_, ?_, ?_⟩
  · rw [htells.unknown, ← htells.present]
    constructor
    · intro hreached
      refine ⟨fun hpresent => ?_, hreached⟩
      cases hpresent.symm.trans ((htells.unknown port tag).mpr hreached)
    · exact And.right
  · intro e port' he hne
    rw [run_concat]
    exact status_step_of_ne he hne
  · intro later hknown hunknown
    rw [(tells_run (events ++ later)).unknown] at hunknown
    refine hknown ((htells.unknown port tag).mpr fun hreached => ?_)
    exact hunknown (hreached.append later)
  · intro port' tag' hpresent
    rw [run_concat]
    exact present_markAbsent hpresent port' tag'

/-- A message for one input, a wait for it that times out, a message for another
input, and then a pruning, which forgets the first message, and a notice. -/
def mixedEvents : List BoardEvent :=
  [.change (.message ⟨0⟩ ⟨.epoch, 5⟩), .look ⟨⟨0⟩, ⟨.epoch, 7⟩, .epoch⟩ .epoch,
    .change (.message ⟨1⟩ ⟨.epoch, 6⟩), .change (.prune ⟨.epoch, 6⟩),
    .change (.notice ⟨1⟩ ⟨.epoch, 6⟩)]

theorem status_of_mixedEvents :
    Kept mixedEvents ⟨1⟩ ⟨.epoch, 6⟩ ∧
    (¬ Kept mixedEvents ⟨0⟩ ⟨.epoch, 5⟩ ∧ Reached mixedEvents ⟨0⟩ ⟨.epoch, 5⟩) ∧
    Reached mixedEvents ⟨0⟩ ⟨.epoch, 7⟩ ∧ ¬ Reached mixedEvents ⟨0⟩ ⟨.epoch, 8⟩ :=
  ⟨(status_of_history mixedEvents ⟨1⟩ ⟨.epoch, 6⟩).1.mp (by decide),
    (status_of_history mixedEvents ⟨0⟩ ⟨.epoch, 5⟩).2.1.mp (by decide),
    ((status_of_history mixedEvents ⟨0⟩ ⟨.epoch, 7⟩).2.1.mp (by decide)).2,
    ((status_of_history mixedEvents ⟨0⟩ ⟨.epoch, 8⟩).2.2.1.mp (by decide)).2⟩

end Board

end Federation
