/-
Federation/Proofs/Waiting.lean

Waits and arrivals agree.

Any number of waits look at one board while others change it. Each look happens
under the lock of the board, and so does each change; nothing else is said of
their order, and what the clock shows at a look is anyone's guess. So a run of
the federate is a row of steps (`WaitingRoom.Event`): a change, a wait that
begins, or one look by one of the waits. `run` is such a row, in any order. That
a wait looks when it begins, and that all waits look after news, one after
another, are such rows (`enter_eq_run`, `wake_eq_run`).

To the board the row is a history (`boardEvents`), in which a wait that is over
does not occur any more. So what a wait finds is what the history says, and a
look that ends it finds one of three things (`Returns.cases`). The main result
puts this together for one input at one tag, as long as the messages of the tag
are not forgotten (`waits_agree_with_arrivals`):

* a wait ends with a status that is known;
* it ends with the message if there is one, however late it is, unless the
  federate is ending;
* it ends with an absence for one of three reasons only;
* and what such an absence has decided stands: a message that comes after all is
  tardy.
-/
import Mathlib
import Federation.Proofs.History

namespace Federation.WaitingRoom

/-! ### Interleavings -/

/-- A step of an interleaving. -/
inductive Event where
  /-- Someone changes the board. -/
  | change (c : BoardChange)
  /-- A wait begins; it has not looked at the board yet. -/
  | arrive (w : Wait)
  /-- The wait with this number looks at the board when the clock shows `now`. -/
  | look (n : Nat) (now : Instant)
deriving DecidableEq

/-- The room after a step. -/
def step (r : WaitingRoom) : Event → WaitingRoom
  | .change c => { r with board := r.board.apply c }
  | .arrive w => { r with entries := r.entries ++ [{ wait := w }] }
  | .look n now =>
    match r.entries[n]? with
    | none => r
    | some e =>
      let (board, e) := look now r.board e
      { board, entries := r.entries.set n e }

/-- The room after a row of steps. -/
def run (r : WaitingRoom) (events : List Event) : WaitingRoom := events.foldl step r

variable {r : WaitingRoom} {n : Nat} {now : Instant} {w : Wait}
  {status : PortStatus}
variable {port : PortId} {tag : Tag} {events later : List Event}

@[simp] theorem run_nil (r : WaitingRoom) : r.run [] = r := rfl

@[simp] theorem run_cons (r : WaitingRoom) (e : Event) (events : List Event) :
    r.run (e :: events) = (r.step e).run events := rfl

@[simp] theorem run_append (r : WaitingRoom) (events later : List Event) :
    r.run (events ++ later) = (r.run events).run later := List.foldl_append

@[simp] theorem run_concat (r : WaitingRoom) (events : List Event) (e : Event) :
    r.run (events ++ [e]) = (r.run events).step e := run_append r events [e]

/-! ### The waiting room is one of them -/

/-- A wait that comes in begins, and looks at once. -/
theorem enter_eq_run (r : WaitingRoom) (now : Instant) (w : Wait) :
    r.enter now w = r.run [.arrive w, .look r.entries.length now] := by
  have hlast :
      (r.entries ++ [{ wait := w }])[r.entries.length]? = some { wait := w } :=
    List.getElem?_concat_length
  simp only [run_cons, run_nil, enter, step, hlast]
  simp

theorem lookAll_eq_run (now : Instant) (b : Board) (done es : List WaitEntry) :
    (⟨b, done ++ es⟩ : WaitingRoom).run
      ((List.range' done.length es.length).map (.look · now))
      = ⟨(lookAll now b es).1, done ++ (lookAll now b es).2⟩ := by
  induction es generalizing b done with
  | nil => rfl
  | cons e es ih =>
    have hnext : (done ++ e :: es)[done.length]? = some e := by simp
    have hset (e' : WaitEntry) :
        (done ++ e :: es).set done.length e' = (done ++ [e']) ++ es := by
      simp
    have hstep : (⟨b, done ++ e :: es⟩ : WaitingRoom).step (.look done.length now)
        = ⟨(look now b e).1, (done ++ [(look now b e).2]) ++ es⟩ := by
      simp only [step, hnext, hset]
    have hlength : done.length + 1 = (done ++ [(look now b e).2]).length := by simp
    rw [List.length_cons, List.range'_succ, List.map_cons, run_cons, hstep,
      hlength, ih, List.append_assoc]
    rfl

/-- News make all waits look, one after another. -/
theorem wake_eq_run (r : WaitingRoom) (now : Instant) :
    r.wake now = r.run ((List.range r.entries.length).map (.look · now)) := by
  rw [List.range_eq_range']
  exact (lookAll_eq_run now r.board [] r.entries).symm

/-! ### What the board sees of a run -/

/-- What a step is to the board. A wait that is over has nothing to do with it. -/
def boardEvent? (r : WaitingRoom) : Event → Option BoardEvent
  | .change c => some (.change c)
  | .arrive _ => none
  | .look n now =>
    match r.entries[n]? with
    | some ⟨w, none⟩ => some (.look w now)
    | _ => none

/-- What a run is to the board. -/
def boardEvents (r : WaitingRoom) : List Event → List BoardEvent
  | [] => []
  | e :: es => (r.boardEvent? e).toList ++ (r.step e).boardEvents es

theorem board_step (r : WaitingRoom) (e : Event) :
    (r.step e).board = r.board.run (r.boardEvent? e).toList := by
  cases e with
  | change c => rfl
  | arrive w => rfl
  | look n now =>
    rcases hn : r.entries[n]? with - | ⟨w, - | status⟩
    · simp only [step, boardEvent?, hn]
      rfl
    · simp only [step, boardEvent?, hn, look]
      change _ = (r.board.check w now).1
      rcases r.board.check w now with ⟨board, status | remaining⟩ <;> rfl
    · simp only [step, boardEvent?, hn, look]
      rfl

theorem board_run (r : WaitingRoom) (events : List Event) :
    (r.run events).board = r.board.run (r.boardEvents events) := by
  induction events generalizing r with
  | nil => rfl
  | cons e es ih =>
    rw [run_cons, ih, board_step, boardEvents, Board.run_append]

@[simp] theorem boardEvents_append (r : WaitingRoom) (events later : List Event) :
    r.boardEvents (events ++ later) = r.boardEvents events ++
      (r.run events).boardEvents later := by
  induction events generalizing r with
  | nil => rfl
  | cons e es ih =>
    rw [List.cons_append, boardEvents, boardEvents, ih, List.append_assoc]
    rfl

theorem boardEvent?_eq_change_iff {e : Event} {c : BoardChange} :
    r.boardEvent? e = some (.change c) ↔ e = .change c := by
  cases e with
  | change c' => simp [boardEvent?]
  | arrive w => simp [boardEvent?]
  | look n now =>
    rcases hn : r.entries[n]? with - | ⟨w, - | status⟩ <;> simp [boardEvent?, hn]

/-- The board sees all changes, and no others. -/
theorem change_mem_boardEvents {c : BoardChange} :
    .change c ∈ r.boardEvents events ↔ .change c ∈ events := by
  induction events generalizing r with
  | nil => exact iff_of_false List.not_mem_nil List.not_mem_nil
  | cons e es ih =>
    have hhead : .change c ∈ (r.boardEvent? e).toList ↔ .change c = e := by
      rw [Option.mem_toList, boardEvent?_eq_change_iff, eq_comm]
    rw [boardEvents, List.mem_append, List.mem_cons, hhead, ih]

/-! ### The end of a wait -/

/-- Whether the wait with number `n`, which is going on, ends with a status when
it looks next. -/
structure Returns (r : WaitingRoom) (n : Nat) (now : Instant) (w : Wait)
    (status : PortStatus) :
    Prop where
  pending : r.entries[n]? = some { wait := w }
  outcome : (r.step (.look n now)).outcome? n = some status

theorem Returns.check (h : r.Returns n now w status) :
    (r.board.check w now).2 = .resolved status := by
  have hlt := (List.getElem?_eq_some_iff.mp h.pending).1
  have houtcome : (look now r.board { wait := w }).2.outcome = some status := by
    rw [← h.outcome]
    simp [outcome?, step, h.pending, List.getElem?_set_self hlt]
  unfold look at houtcome
  rcases hcheck : r.board.check w now with ⟨board, status' | remaining⟩
  · simp only [hcheck, Option.some.injEq] at houtcome
    rw [houtcome]
  · simp only [hcheck] at houtcome
    cases houtcome

/-- A wait ends because the federate does, because the status is known, or
because its deadline has come. -/
theorem Returns.cases (h : r.Returns n now w status) :
    (r.board.shuttingDown = true ∧ status = .absent) ∨
    (r.board.shuttingDown = false ∧ status ≠ .unknown ∧
      r.board.status w.port w.tag = status) ∨
    (r.board.TimesOut w now ∧ status = .absent) := by
  have hresolved := h.check
  rcases r.board.check_cases w now with ⟨hdown, hcheck⟩ | ⟨hdown, hknown, hcheck⟩ |
    ⟨htimeout, hcheck⟩ | ⟨-, -, -, hcheck⟩
  · rw [hcheck] at hresolved
    cases hresolved
    exact .inl ⟨hdown, rfl⟩
  · rw [hcheck] at hresolved
    cases hresolved
    exact .inr (.inl ⟨hdown, hknown, rfl⟩)
  · rw [hcheck] at hresolved
    cases hresolved
    exact .inr (.inr ⟨htimeout, rfl⟩)
  · rw [hcheck] at hresolved
    cases hresolved

/-! ### No wait ends without an answer -/

theorem known_step (h : ∀ e ∈ r.entries, e.outcome ≠ some .unknown)
    (event : Event) :
    ∀ e ∈ (r.step event).entries, e.outcome ≠ some .unknown := by
  cases event with
  | change c => exact h
  | arrive w =>
    intro e he
    rcases List.mem_append.mp he with he | he
    · exact h e he
    · rw [List.mem_singleton.mp he]
      exact nofun
  | look n now =>
    rcases hn : r.entries[n]? with - | entry
    · simpa only [step, hn] using h
    · simp only [step, hn]
      intro e he
      rcases List.mem_or_eq_of_mem_set he with he | rfl
      · exact h e he
      · -- only the wait that looks can end, and a look never answers unknown
        obtain ⟨w, - | status⟩ := entry
        · unfold look
          rcases r.board.check_cases w now with ⟨-, hcheck⟩ | ⟨-, hknown, hcheck⟩ |
            ⟨-, hcheck⟩ | ⟨-, -, -, hcheck⟩
          · simp [hcheck]
          · simpa [hcheck] using hknown
          · simp [hcheck]
          · simp [hcheck]
        · exact h _ (List.mem_of_getElem? hn)

theorem known_run (h : ∀ e ∈ r.entries, e.outcome ≠ some .unknown)
    (events : List Event) :
    ∀ e ∈ (r.run events).entries, e.outcome ≠ some .unknown := by
  induction events generalizing r with
  | nil => exact h
  | cons event events ih => exact ih (known_step h event)

theorem outcome?_ne_unknown (h : ∀ e ∈ r.entries, e.outcome ≠ some .unknown)
    (n : Nat) :
    r.outcome? n ≠ some .unknown := by
  unfold outcome?
  rcases hn : r.entries[n]? with - | e
  · exact nofun
  · exact h e (List.mem_of_getElem? hn)

/-! ### Waits and arrivals -/

/-- The board of a run that begins with nothing says what its history says. -/
theorem tells_boardEvents (events : List Event) :
    (run {} events).board.Tells (boardEvents {} events) := by
  rw [board_run]
  exact Board.tells_run (boardEvents {} events)

theorem shuttingDown_run_iff :
    (run {} events).board.shuttingDown = true ↔ .change .shutdown ∈ events := by
  rw [board_run, Board.shuttingDown_run, change_mem_boardEvents]
  exact or_iff_right nofun

/-- Where nothing is forgotten, a tag is present once a message for it came. -/
theorem present_run_iff (h : ∀ t, .change (.prune t) ∈ events → ¬ tag < t) :
    (run {} events).board.status port tag = .present ↔
      .change (.message port tag) ∈ events := by
  have hkept : Board.Kept (boardEvents {} events) port tag ↔
      .change (.message port tag) ∈ boardEvents {} events :=
    Board.kept_iff_mem fun t ht => h t (change_mem_boardEvents.mp ht)
  rw [(tells_boardEvents events).present, hkept, change_mem_boardEvents]

section OneWait

variable {earlier between : List Event} {deadline : Instant}

/-- A wait that ends with an absence leaves one behind, unless the federate is
ending. -/
theorem Returns.reached (h : (run {} earlier).Returns n now w .absent)
    (hrunning : .change .shutdown ∉ earlier) :
    Board.Reached (boardEvents {} (earlier ++ [.look n now])) w.port w.tag := by
  have hlook : (run {} earlier).boardEvents [.look n now] = [.look w now] := by
    simp [boardEvents, boardEvent?, h.pending]
  rw [boardEvents_append, hlook]
  have hboard : Board.empty.run (boardEvents {} earlier) = (run {} earlier).board :=
    (board_run {} earlier).symm
  rcases h.cases with ⟨hdown, -⟩ | ⟨-, -, habsent⟩ | ⟨htimeout, -⟩
  · exact absurd (shuttingDown_run_iff.mp hdown) hrunning
  · rw [← hboard] at habsent
    exact (Board.absent_run_iff.mp habsent).2.append [.look w now]
  · rw [← hboard] at htimeout
    exact Board.reached_concat_iff.mpr
      (.inr ⟨w.tag, false, .timeout htimeout, Tag.le_refl w.tag⟩)

section Kept

variable (hkeep : ∀ t, .change (.prune t) ∈ earlier → ¬ tag < t)
include hkeep

/-- A wait that ends after a message came ends with it, deadline or not. -/
theorem Returns.present_of_message
    (h : (run {} earlier).Returns n now ⟨port, tag, deadline⟩ status)
    (hmessage : .change (.message port tag) ∈ earlier)
    (hrunning : .change .shutdown ∉ earlier) :
    status = .present := by
  have hpresent := (present_run_iff hkeep).mpr hmessage
  rcases h.cases with ⟨hdown, -⟩ | ⟨-, -, hstatus⟩ | ⟨htimeout, -⟩
  · exact absurd (shuttingDown_run_iff.mp hdown) hrunning
  · exact hstatus.symm.trans hpresent
  · cases htimeout.unknown.symm.trans hpresent

/-- Why a wait can end with an absence. -/
theorem Returns.reason_of_absent
    (h : (run {} earlier).Returns n now ⟨port, tag, deadline⟩ .absent) :
    .change .shutdown ∈ earlier ∨
    (Board.Reached (boardEvents {} earlier) port tag ∧
      .change (.message port tag) ∉ earlier) ∨
    deadline ≤ now := by
  rcases h.cases with ⟨hdown, -⟩ | ⟨-, -, habsent⟩ | ⟨htimeout, -⟩
  · exact .inl (shuttingDown_run_iff.mp hdown)
  · have hnone : .change (.message port tag) ∉ earlier := by
      intro hmessage
      cases habsent.symm.trans ((present_run_iff hkeep).mpr hmessage)
    rw [board_run] at habsent
    exact .inr (.inl ⟨(Board.absent_run_iff.mp habsent).2, hnone⟩)
  · exact .inr (.inr htimeout.due)

end Kept

/-- Until a message comes the tag stays as absent as a wait has left it. -/
theorem Returns.tardy_of_absent
    (h : (run {} earlier).Returns n now ⟨port, tag, deadline⟩ .absent)
    (hrunning : .change .shutdown ∉ earlier)
    (hnone : .change (.message port tag) ∉ earlier ++ .look n now :: between) :
    ((run {} (earlier ++ .look n now :: between)).board.markPresent port tag).2
      = .tardy := by
  have hkept : ¬ Board.Kept
      (boardEvents {} (earlier ++ .look n now :: between)) port tag := by
    rintro ⟨before, after, hsplit, -⟩
    refine hnone (change_mem_boardEvents (r := {}).mp ?_)
    rw [hsplit]
    simp
  have hreached : Board.Reached
      (boardEvents {} (earlier ++ .look n now :: between)) port tag := by
    rw [← List.singleton_append, ← List.append_assoc, boardEvents_append]
    exact (h.reached hrunning).append _
  refine Board.markPresent_tardy_iff.mpr (.inl ?_)
  rw [board_run]
  exact Board.absent_run_iff.mpr ⟨hkept, hreached⟩

end OneWait

/-- **Waits and arrivals agree.** In any interleaving that begins with nothing,
and for an input and a tag whose messages are not forgotten, no wait ends with a
status that is unknown. One that ends after a message for the tag came ends with
the message, unless the federate is ending. If it ends with an absence, the
federate is ending, or the input was marked at the tag or later, or the deadline
has come; and then the first message for the tag that comes after all is tardy. -/
theorem waits_agree_with_arrivals (events : List Event) (port : PortId) (tag : Tag)
    (hkeep : ∀ t, .change (.prune t) ∈ events → ¬ tag < t) :
    (∀ n, (run {} events).outcome? n ≠ some .unknown) ∧
    ∀ earlier later n now deadline status,
      events = earlier ++ .look n now :: later →
      (run {} earlier).Returns n now ⟨port, tag, deadline⟩ status →
      (.change (.message port tag) ∈ earlier → .change .shutdown ∉ earlier →
        status = .present) ∧
      (status = .absent →
        .change .shutdown ∈ earlier ∨
        (Board.Reached (boardEvents {} earlier) port tag ∧
          .change (.message port tag) ∉ earlier) ∨
        deadline ≤ now) ∧
      (status = .absent → .change .shutdown ∉ earlier →
        .change (.message port tag) ∉ earlier ∧
        ∀ between rest, later = between ++ .change (.message port tag) :: rest →
          .change (.message port tag) ∉ between →
          ((run {} (earlier ++ .look n now :: between)).board.markPresent
            port tag).2 = .tardy) := by
  refine ⟨outcome?_ne_unknown
    (known_run (fun e he => absurd he List.not_mem_nil) events), ?_⟩
  rintro earlier later n now deadline status rfl h
  have hkeep' : ∀ t, .change (.prune t) ∈ earlier → ¬ tag < t := fun t ht =>
    hkeep t (List.mem_append_left _ ht)
  refine ⟨h.present_of_message hkeep', ?_, ?_⟩
  · rintro rfl
    exact h.reason_of_absent hkeep'
  · rintro rfl hrunning
    have hfirst : .change (.message port tag) ∉ earlier := by
      intro hmessage
      cases h.present_of_message hkeep' hmessage hrunning
    refine ⟨hfirst, ?_⟩
    rintro between rest rfl hbetween
    exact h.tardy_of_absent hrunning (by simp [hfirst, hbetween])

/-- Two waits for one input at one tag. The first gives up at its deadline, then
a message comes, which the second finds though it is tardy. -/
def lateMessage : List Event :=
  [.arrive ⟨⟨0⟩, ⟨.epoch, 3⟩, .epoch⟩, .arrive ⟨⟨0⟩, ⟨.epoch, 3⟩, .forever⟩,
    .look 0 .epoch,
    .change (.message ⟨0⟩ ⟨.epoch, 3⟩), .look 1 .epoch]

theorem waits_agree_with_lateMessage :
    (run {} lateMessage).outcome? 0 = some .absent ∧
    ((run {} (lateMessage.take 3)).board.markPresent ⟨0⟩ ⟨.epoch, 3⟩).2 = .tardy ∧
    (run {} lateMessage).outcome? 1 = some .present := by
  have hagree :=
    (waits_agree_with_arrivals lateMessage ⟨0⟩ ⟨.epoch, 3⟩
      (by simp [lateMessage])).2
  have hfirst :=
    hagree (lateMessage.take 2) (lateMessage.drop 3) 0 .epoch .epoch .absent rfl
    ⟨rfl, rfl⟩
  have hsecond := hagree (lateMessage.take 4) [] 1 .epoch .forever _ rfl ⟨rfl, rfl⟩
  refine
    ⟨rfl, (hfirst.2.2 rfl (by decide)).2 [] [.look 1 .epoch] rfl (by decide), ?_⟩
  rw [← hsecond.1 (by decide) (by decide)]
  rfl

end Federation.WaitingRoom
