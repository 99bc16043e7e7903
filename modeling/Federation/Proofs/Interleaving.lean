/-
Federation/Proofs/Interleaving.lean

Data and clock synchronisation over one stream.

The coordinator sends data and the T1s and T4s of clock synchronisation over one
link, in any order. Both have to do with the clock: data is stamped with it, and
those who wait for data read it when they wake; the rounds read it and correct
it. Apart from that they have nothing to do with one another. `Federate.hear`
takes in one frame of either kind, and what comes of a row of frames is told
from both sides, by induction over the row:

* the round and the offset are what a round makes of the T1s and T4s alone, by a
  clock that leaves out the readings for data (`synced_hearAll`);
* all else is what comes of the data alone, each frame dispatched by the clock
  of its moment (`dispatchedAlone_hearAll`), and if no wait comes to its
  deadline meanwhile, the moments show in nothing but the stamps
  (`unstamped_hearAll`).
-/
import Mathlib
import Federation.Proofs.Announcement
import Federation.Proofs.History
import Federation.Proofs.PeerReading
import Federation.Proofs.Rounds

namespace Federation

variable {μ : Type}

/-! ### Frames of either kind -/

namespace Frame

/-- Whether the frame is one of the coordinator's of clock synchronisation. -/
def isSync : Frame → Bool
  | .clockSyncT1 _ | .clockSyncT4 _ => true
  | _ => false

/-- Whether the frame is a T1. -/
def isT1 : Frame → Bool
  | .clockSyncT1 _ => true
  | _ => false

/-- What happens to a round when the frame comes, a T1 being answered at once. -/
def syncEvents : Frame → List SyncEvent
  | .clockSyncT1 time => [.t1 time, .answer]
  | .clockSyncT4 time => [.t4 time]
  | _ => []

/-- The frames of clock synchronisation. -/
def syncs (frames : List Frame) : List Frame := frames.filter isSync

/-- The frames that are not of clock synchronisation. -/
def others (frames : List Frame) : List Frame := frames.filter fun f => !f.isSync

variable {f : Frame}

theorem sync_cases (f : Frame) :
    (∃ time, f = .clockSyncT1 time) ∨ (∃ time, f = .clockSyncT4 time) ∨
      f.isSync = false := by
  cases f with
  | clockSyncT1 time => exact .inl ⟨time, rfl⟩
  | clockSyncT4 time => exact .inr (.inl ⟨time, rfl⟩)
  | _ => exact .inr (.inr rfl)

theorem isT1_of_isSync_eq_false (h : f.isSync = false) : f.isT1 = false := by
  cases f with
  | clockSyncT1 time => cases h
  | _ => rfl

theorem syncEvents_of_isSync_eq_false (h : f.isSync = false) :
    f.syncEvents = [] := by
  cases f with
  | clockSyncT1 time => cases h
  | clockSyncT4 time => cases h
  | _ => rfl

theorem others_cons_of_isSync_eq_false (h : f.isSync = false)
    (frames : List Frame) :
    others (f :: frames) = f :: others frames :=
      List.filter_cons_of_pos (by simp [h])

theorem others_cons_of_isSync (h : f.isSync = true) (frames : List Frame) :
    others (f :: frames) = others frames := List.filter_cons_of_neg (by simp [h])

/-- All T1s are frames of clock synchronisation. -/
theorem countP_isT1_syncs (frames : List Frame) :
    (syncs frames).countP isT1 = frames.countP isT1 := by
  rw [syncs, List.countP_filter]
  refine List.countP_congr fun f _ => ?_
  cases f <;> simp [isT1, isSync]

end Frame

/-- A round to which some events come, and its clock. -/
def SyncState.run (events : List SyncEvent) (s : SyncState) : SyncState :=
  (inTurn observe events s).2

@[simp] theorem SyncState.run_append (events later : List SyncEvent)
    (s : SyncState) :
    run (events ++ later) s = run later (run events s) := inTurn_append _ _ _ _

namespace Federate

/-- Takes in a frame from the coordinator, of either kind. -/
def hear (s : SyncRound × Federate μ) (f : Frame) : SyncRound × Federate μ :=
  if f.isSync then
    let sync := SyncState.run f.syncEvents ⟨s.1, s.2.clock⟩
    (sync.round, { s.2 with clock := sync.clock })
  else (s.1, (s.2.dispatch .coordinator f).2)

/-- Takes in frames from the coordinator, one after another. -/
def hearAll (frames : List Frame) (s : SyncRound × Federate μ) :
    SyncRound × Federate μ := frames.foldl hear s

variable {s : SyncRound × Federate μ} {f : Frame}

theorem hear_of_isSync_eq_false (h : f.isSync = false) :
    hear s f = (s.1, (s.2.dispatch .coordinator f).2) :=
  if_neg (by rw [h]; exact Bool.false_ne_true)

theorem hear_T1 (round : SyncRound) (federate : Federate μ) (time : Instant) :
    hear (round, federate) (.clockSyncT1 time)
      = ((round.onT1 time federate.clock.now).onAnswer federate.clock.tick.now,
          { federate with clock := federate.clock.tick.tick }) := rfl

theorem hear_T4 (round : SyncRound) (federate : Federate μ) (time : Instant) :
    hear (round, federate) (.clockSyncT4 time)
      = ((round.onT4 time).1,
          { federate with
            clock := SyncState.corrected federate.clock (round.onT4 time).2 }) := by
  have hT4 := congrArg Prod.fst (SyncState.onT4_eq ⟨round, federate.clock⟩ time)
  exact Prod.ext (congrArg SyncState.round hT4)
    (congrArg (fun sync : SyncState => { federate with clock := sync.clock }) hT4)

@[simp] theorem hearAll_cons (f : Frame) (frames : List Frame)
    (s : SyncRound × Federate μ) :
    hearAll (f :: frames) s = hearAll frames (hear s f) := rfl

end Federate

/-! ### The side of clock synchronisation -/

/-- Two clocks that will show the same, as far as it is up to them. -/
structure Clock.Agrees (c c' : Clock) : Prop where
  offset : c'.offset = c.offset
  ahead : ∀ i, c'.readings (c'.readCount + i) = c.readings (c.readCount + i)

namespace Clock.Agrees

variable {c c' : Clock}

theorem now (h : c.Agrees c') : c'.now = c.now := by
  have hreading := h.ahead 0
  rw [Nat.add_zero, Nat.add_zero] at hreading
  rw [Clock.now, Clock.now, hreading, h.offset]

theorem tick (h : c.Agrees c') : c.tick.Agrees c'.tick where
  offset := by simp [h.offset]
  ahead i := by simpa [Nat.add_assoc] using h.ahead (1 + i)

theorem corrected (h : c.Agrees c') (correction : Option Interval) :
    (SyncState.corrected c correction).Agrees
      (SyncState.corrected c' correction) := by
  cases correction with
  | none => exact h
  | some d =>
    exact ⟨congrArg (fun offset : ClockOffset => (offset.adjust d).1) h.offset,
      h.ahead⟩

end Clock.Agrees

namespace SyncState

variable {s s' : SyncState}

/-- What a round comes to depends on nothing of the clock but what it will show. -/
theorem agrees_observe (hround : s'.round = s.round)
    (hclock : s.clock.Agrees s'.clock) (e : SyncEvent) :
    (observe e s').2.round = (observe e s).2.round ∧
      (observe e s).2.clock.Agrees (observe e s').2.clock := by
  obtain ⟨round, clock⟩ := s
  obtain ⟨round', clock'⟩ := s'
  subst hround
  cases e with
  | t1 time =>
    refine ⟨?_, hclock.tick⟩
    dsimp only [observe, onT1]
    rw [hclock.now]
  | answer =>
    refine ⟨?_, hclock.tick⟩
    dsimp only [observe, onAnswer]
    rw [hclock.now]
  | t4 time =>
    simp only [observe, onT4_eq, true_and]
    exact hclock.corrected _

theorem agrees_run (hround : s'.round = s.round)
    (hclock : s.clock.Agrees s'.clock) (events : List SyncEvent) :
    (run events s').round = (run events s).round ∧
      (run events s).clock.Agrees (run events s').clock := by
  induction events generalizing s s' with
  | nil => exact ⟨hround, hclock⟩
  | cons e events ih =>
    obtain ⟨hround', hclock'⟩ := agrees_observe hround hclock e
    exact ih hround' hclock'

end SyncState

/-- A clock with the same offset that will be read as another one is, but for
some readings that it leaves out. -/
structure Clock.LeavesOut (c c' : Clock) : Prop where
  offset : c'.offset = c.offset
  ahead : ∃ index : Nat → Nat, StrictMono index ∧
    ∀ i, c'.readings (c'.readCount + i) = c.readings (c.readCount + index i)

namespace Clock.LeavesOut

variable {c c' : Clock}

theorem refl (c : Clock) : c.LeavesOut c := ⟨rfl, id, strictMono_id, fun _ => rfl⟩

/-- The next readings may be left out. -/
theorem after {count : Nat} (h : (c.after count).LeavesOut c') :
    c.LeavesOut c' := by
  obtain ⟨hoffset, index, hmono, hahead⟩ := h
  refine ⟨hoffset, fun i => count + index i,
    fun i j hij => Nat.add_lt_add_left (hmono hij) count, fun i => ?_⟩
  rw [hahead, ← Nat.add_assoc]
  rfl

/-- A correction has nothing to do with which readings are left out. -/
theorem exists_uncorrected {correction : Option Interval}
    (h : (SyncState.corrected c correction).LeavesOut c') :
    ∃ c'', c.LeavesOut c'' ∧ SyncState.corrected c'' correction = c' := by
  obtain ⟨hoffset, hahead⟩ := h
  refine ⟨{ c' with offset := c.offset }, ?_, ?_⟩
  · cases correction with
    | none => exact ⟨rfl, hahead⟩
    | some d => exact ⟨rfl, hahead⟩
  · obtain ⟨offset, readings, readCount⟩ := c'
    cases correction with
    | none =>
      cases hoffset
      rfl
    | some d =>
      cases hoffset
      rfl

/-- The next two readings may be kept. -/
theorem exists_keeping_two (h : c.tick.tick.LeavesOut c') :
    ∃ c'', c.LeavesOut c'' ∧ c''.now = c.now ∧ c''.tick.now = c.tick.now ∧
      c'.Agrees c''.tick.tick := by
  obtain ⟨hoffset, index, hmono, hahead⟩ := h
  -- the clock that shows the two readings first, and then what the other is yet
  -- to show
  let readings : Nat → Instant
    | 0 => c.readings c.readCount
    | 1 => c.readings (c.readCount + 1)
    | i + 2 => c'.readings (c'.readCount + i)
  let index' : Nat → Nat
    | 0 => 0
    | 1 => 1
    | i + 2 => 2 + index i
  refine ⟨{ offset := c.offset, readings, readCount := 0 },
    ⟨rfl, index', ?_, ?_⟩, rfl, rfl, hoffset.symm, ?_⟩
  · refine strictMono_nat_of_lt_succ fun i => ?_
    match i with
    | 0 => exact Nat.zero_lt_one
    | 1 => exact Nat.lt_of_lt_of_le Nat.one_lt_two (Nat.le_add_right 2 _)
    | i + 2 => exact Nat.add_lt_add_left (hmono (Nat.lt_succ_self i)) 2
  · intro i
    rw [Nat.zero_add]
    match i with
    | 0 => rfl
    | 1 => rfl
    | i + 2 =>
      show c'.readings (c'.readCount + i) = c.readings (c.readCount + (2 + index i))
      rw [hahead, ← Nat.add_assoc]
      rfl
  · intro i
    show readings (0 + 1 + 1 + i) = _
    rw [Nat.add_comm]

end Clock.LeavesOut

namespace Federate

open SyncState

/-- The round and the offset have become what a round makes of the T1s and T4s
among the frames and of nothing else, an answer following each T1, by a clock
that leaves out the readings for data. -/
def Synced (frames : List Frame) (s s' : SyncRound × Federate μ) : Prop :=
  ∃ clock, s.2.clock.LeavesOut clock ∧
    let sync := run (frames.flatMap Frame.syncEvents) ⟨s.1, clock⟩
    s'.1 = sync.round ∧ s'.2.clock.offset = sync.clock.offset

theorem synced_hearAll (frames : List Frame) (s : SyncRound × Federate μ) :
    Synced frames s (hearAll frames s) := by
  induction frames generalizing s with
  | nil => exact ⟨s.2.clock, .refl _, rfl, rfl⟩
  | cons f frames ih =>
    obtain ⟨round, federate⟩ := s
    obtain ⟨clock, hleaves, hround, hoffset⟩ := ih (hear (round, federate) f)
    simp only [Synced, List.flatMap_cons, run_append, hearAll_cons]
    rcases f.sync_cases with ⟨time, rfl⟩ | ⟨time, rfl⟩ | hf
    · -- both readings are kept, and what comes then is up to a clock that
      -- agrees with the one of the other frames
      rw [hear_T1] at hleaves hround hoffset ⊢
      obtain ⟨clock', hleaves', hnow, hnow', hagrees⟩ := hleaves.exists_keeping_two
      have hasked : (run [.t1 time, .answer] ⟨round, clock'⟩).round
          = (round.onT1 time federate.clock.now).onAnswer
            federate.clock.tick.now := by
        show (round.onT1 time clock'.now).onAnswer clock'.tick.now = _
        rw [hnow, hnow']
      obtain ⟨hround', hclock'⟩ :=
        agrees_run (s := ⟨_, clock⟩) hasked hagrees
          (frames.flatMap Frame.syncEvents)
      exact ⟨clock', hleaves', hround.trans hround'.symm,
        hoffset.trans hclock'.offset.symm⟩
    · -- the offset is set back, and corrected again
      rw [hear_T4] at hleaves hround hoffset ⊢
      obtain ⟨clock', hleaves', hcorrected⟩ := hleaves.exists_uncorrected
      have hT4 : run [.t4 time] ⟨round, clock'⟩ = ⟨(round.onT4 time).1, clock⟩ := by
        rw [← hcorrected]
        exact congrArg Prod.fst (onT4_eq ⟨round, clock'⟩ time)
      refine ⟨clock', hleaves', ?_⟩
      rw [Frame.syncEvents, hT4]
      exact ⟨hround, hoffset⟩
    · rw [hear_of_isSync_eq_false hf] at hleaves hround hoffset ⊢
      obtain ⟨count, hattends⟩ := federate.attends_dispatch .coordinator f
      rw [hattends.clock] at hleaves
      rw [Frame.syncEvents_of_isSync_eq_false hf]
      exact ⟨clock, hleaves.after, hround, hoffset⟩

/-! ### The side of data -/

/-- A frame, and the clock as it was when the frame came. -/
structure Moment where
  clock : Clock
  frame : Frame

/-- Takes in a frame from the coordinator by the clock of its moment. -/
def dispatchAt (f : Federate μ) (m : Moment) : Federate μ :=
  ({ f with clock := m.clock }.dispatch .coordinator m.frame).2

/-- Two federates with the same things but for the clock. -/
def SameButClock (f f' : Federate μ) : Prop := { f' with clock := f.clock } = f

theorem SameButClock.trans {f f' f'' : Federate μ} (h : f.SameButClock f')
    (h' : f'.SameButClock f'') :
    f.SameButClock f'' := by
  have hclock : ({ f'' with clock := f.clock } : Federate μ)
      = { ({ f'' with clock := f'.clock } : Federate μ) with clock := f.clock } :=
        rfl
  rw [SameButClock, hclock,
    show ({ f'' with clock := f'.clock } : Federate μ) = f' from h']
  exact h

/-- What is dispatched by the clocks of its moments does not depend on the clock
before. -/
theorem sameButClock_foldl {f f' : Federate μ} (h : f.SameButClock f')
    (moments : List Moment) :
    (moments.foldl dispatchAt f).SameButClock (moments.foldl dispatchAt f') := by
  cases moments with
  | nil => exact h
  | cons m moments =>
    have hfirst : dispatchAt f m = dispatchAt f' m := by
      rw [← show ({ f' with clock := f.clock } : Federate μ) = f from h]
      rfl
    rw [List.foldl_cons, List.foldl_cons, hfirst]
    rfl

/-- A frame of clock synchronisation changes nothing but the clock, which it may
have read. -/
theorem exists_clock_of_isSync {s : SyncRound × Federate μ} {f : Frame}
    (hf : f.isSync = true) :
    ∃ clock,
      (hear s f).2 = { s.2 with clock } ∧ clock.readings = s.2.clock.readings ∧
      s.2.clock.readCount ≤ clock.readCount := by
  obtain ⟨round, federate⟩ := s
  rcases f.sync_cases with ⟨time, rfl⟩ | ⟨time, rfl⟩ | hother
  · exact ⟨_, rfl, rfl, Nat.le_add_right _ 2⟩
  · rw [hear_T4]
    cases (round.onT4 time).2 with
    | none => exact ⟨_, rfl, rfl, Nat.le_refl _⟩
    | some d => exact ⟨_, rfl, rfl, Nat.le_refl _⟩
  · rw [hother] at hf
    cases hf

/-- All but the clock has become what comes of the data alone, each frame being
dispatched by the clock of its moment. The moments come one after another. -/
def DispatchedAlone (frames : List Frame) (f f' : Federate μ) : Prop :=
  ∃ moments : List Moment, moments.map (·.frame) = Frame.others frames ∧
    (∀ m ∈ moments, m.clock.readings = f.clock.readings ∧
      f.clock.readCount ≤ m.clock.readCount) ∧
    moments.Pairwise (fun m m' => m.clock.readCount < m'.clock.readCount) ∧
    (moments.foldl dispatchAt f).SameButClock f'

theorem dispatchedAlone_hearAll (frames : List Frame) (s : SyncRound × Federate μ) :
    DispatchedAlone frames s.2 (hearAll frames s).2 := by
  induction frames generalizing s with
  | nil => exact ⟨[], rfl, List.forall_mem_nil _, .nil, rfl⟩
  | cons f frames ih =>
    obtain ⟨round, federate⟩ := s
    obtain ⟨moments, hframes, hclocks, hordered, hsame⟩ :=
      ih (hear (round, federate) f)
    rw [hearAll_cons]
    cases hf : f.isSync with
    | true =>
      -- clock synchronisation has its readings, and the moments of the data
      -- come later
      obtain ⟨clock, hclock, hreadings, hle⟩ :=
        exists_clock_of_isSync (s := (round, federate)) hf
      rw [hclock] at hclocks
      refine ⟨moments, ?_, ?_, hordered, ?_⟩
      · rw [hframes, Frame.others_cons_of_isSync hf]
      · intro m hm
        obtain ⟨hm₁, hm₂⟩ := hclocks m hm
        exact ⟨hm₁.trans hreadings, hle.trans hm₂⟩
      · exact (sameButClock_foldl (f := federate)
          (by rw [hclock]; rfl) moments).trans hsame
    | false =>
      rw [hear_of_isSync_eq_false hf] at hclocks hsame ⊢
      obtain ⟨count, hattends⟩ := federate.attends_dispatch .coordinator f
      -- the first moment is now, and the dispatch reads the clock, so all
      -- others are later
      refine ⟨⟨federate.clock, f⟩ :: moments, ?_, ?_, ?_, hsame⟩
      · rw [List.map_cons, hframes, Frame.others_cons_of_isSync_eq_false hf]
      · refine List.forall_mem_cons.mpr ⟨⟨rfl, Nat.le_refl _⟩, fun m hm => ?_⟩
        obtain ⟨hm₁, hm₂⟩ := hclocks m hm
        rw [hattends.clock] at hm₁ hm₂
        exact ⟨hm₁, (Nat.le_add_right _ _).trans hm₂⟩
      · refine List.pairwise_cons.mpr ⟨fun m hm => ?_, hordered⟩
        have hlater := (hclocks m hm).2
        rw [hattends.clock] at hlater
        exact Nat.lt_of_lt_of_le
          (Nat.lt_add_of_pos_right (Nat.succ_pos count)) hlater

end Federate

/-! ### But for the stamps -/

/-- The message without the stamp of its arrival. -/
def ReceivedMessage.unstamped (m : ReceivedMessage) : ReceivedMessage :=
  { m with arrival := .epoch }

/-- The inbox without the stamps of arrival. -/
def Inbox.unstamped (inbox : Inbox) : Inbox :=
  { inbox with scheduled := inbox.scheduled.map ReceivedMessage.unstamped }

theorem Frame.unstamped_received? (f : Frame) (now now' : Instant) :
    (f.received? now').map ReceivedMessage.unstamped
      = (f.received? now).map ReceivedMessage.unstamped := by
  cases f <;> rfl

/-- A dispatch depends on the clock and on earlier stamps in nothing but the
stamp. -/
theorem Plan.unstamped_dispatch {inbox inbox' : Inbox} (plan : Plan)
    (source : Destination) (f : Frame) (h : inbox'.unstamped = inbox.unstamped)
    (now now' : Instant) :
    (plan.dispatch source now' f inbox').2.unstamped
      = (plan.dispatch source now f inbox).2.unstamped := by
  -- whether the frame is refused is up to the plan alone
  by_cases hrefuses : ∃ detail, plan.Refuses f detail
  · obtain ⟨detail, hrefuses⟩ := hrefuses
    rw [dispatch_of_refuses _ _ _ hrefuses, dispatch_of_refuses _ _ _ hrefuses, h]
  · obtain ⟨hboard, hscheduled⟩ := Inbox.mk.inj h
    rw [dispatch_of_accepts _ _ _ (not_exists.mp hrefuses),
      dispatch_of_accepts _ _ _ (not_exists.mp hrefuses)]
    simp only [Inbox.unstamped, List.map_append, hboard, hscheduled,
      ← Option.toList_map, f.unstamped_received? now now']

/-- Takes in frames from one source, one after another, while the clock stands
still. -/
def Plan.dispatchAll (plan : Plan) (source : Destination) (now : Instant)
    (frames : List Frame) (inbox : Inbox) : Inbox :=
  (inTurn (plan.dispatch source now) frames inbox).2

namespace Federate

/-- Whether no reading of the clock from one state of a federate to a later one
shows the deadline of a wait that is going on. -/
def Unhurried (f f' : Federate μ) : Prop :=
  ∀ e ∈ f.awaits, e.outcome = none → ∀ count, f.clock.readCount + count
    < f'.clock.readCount → (f.clock.after count).now < e.wait.deadline

variable {f : Federate μ}

/-- A look before the deadline changes neither the board nor what is scheduled. -/
theorem inbox_lookOne_of_lt {e : AwaitEntry}
    (h : e.outcome = none → f.clock.now < e.wait.deadline) :
    (f.lookOne e).2.inbox = f.inbox := by
  cases he : e.outcome with
  | some status => rw [lookOne, he]
  | none =>
    have hcheck : (f.inbox.board.check e.wait f.clock.now).1 = f.inbox.board := by
      rcases Board.check_cases f.inbox.board e.wait f.clock.now with
        ⟨-, hdown⟩ | ⟨-, -, hknown⟩ | ⟨htimeout, -⟩ | ⟨-, -, -, hpending⟩
      · rw [hdown]
      · rw [hknown]
      · exact absurd htimeout.due (Int.not_le.mpr (h he))
      · rw [hpending]
    rw [lookOne, he]
    rcases hlook : f.inbox.board.check e.wait f.clock.now with
      ⟨board, status | remaining⟩ <;>
    · rw [hlook] at hcheck
      cases hcheck
      simp only [Inlet.look, hlook]

theorem inbox_wake_of_unhurried (h : f.Unhurried f.wake) :
    f.wake.inbox = f.inbox := by
  have hlooks (entries : List AwaitEntry) (f : Federate μ)
      (h : ∀ e ∈ entries, e.outcome = none → ∀ count,
        f.clock.readCount + count < (inTurn (fun e f => lookOne f e) entries
          f).2.clock.readCount → (f.clock.after count).now < e.wait.deadline) :
      (inTurn (fun e f => lookOne f e) entries f).2.inbox = f.inbox := by
    induction entries generalizing f with
    | nil => rfl
    | cons e entries ih =>
      obtain ⟨he, hrest⟩ := List.forall_mem_cons.mp h
      rw [inTurn_cons] at he hrest ⊢
      obtain ⟨later, hlater⟩ := attends_looks entries (f.lookOne e).2
      cases hended : e.outcome with
      | some status =>
        -- the wait is over, and does not look
        have hlook : f.lookOne e = (e, f) := by
          rw [lookOne, hended]
        rw [hlook] at hrest ⊢
        exact ih f hrest
      | none =>
        -- the look reads the clock once, and the others have one reading less
        have hclock : (f.lookOne e).2.clock = f.clock.tick := by
          rw [lookOne, hended]
          rcases e.inlet.look e.wait f.clock.now f.inbox.board f.ports with
            ⟨status | remaining, board, ports⟩ <;> rfl
        have hnow : f.clock.now < e.wait.deadline := by
          refine he hended 0 ?_
          rw [hlater.clock, hclock]
          exact Nat.lt_of_lt_of_le (Nat.lt_succ_self _) (Nat.le_add_right _ later)
        refine (ih _ fun e' he' hgoing count hcount => ?_).trans
          (inbox_lookOne_of_lt fun _ => hnow)
        rw [hclock, ← Clock.after_succ]
        refine hrest e' he' hgoing (count + 1) ?_
        rw [hclock] at hcount
        rwa [← Nat.add_assoc, Nat.add_right_comm]
  exact hlooks f.awaits f h

/-- If no wait comes to its deadline, a dispatch changes nothing of the inbox
but what the frame does. -/
theorem inbox_dispatch_of_unhurried {source : Destination} {frame : Frame}
    (h : f.Unhurried (f.dispatch source frame).2) :
    (f.dispatch source frame).2.inbox
      = (f.plan.dispatch source f.clock.now frame f.inbox).2 := by
  let taken := f.plan.dispatch source f.clock.now frame f.inbox
  let f' : Federate μ := { f with inbox := taken.2, clock := f.clock.tick }
  have hdispatch : (f.dispatch source frame).2
      = if taken.1.isOk && frame.isRecorded then f'.wake else f' := rfl
  rw [hdispatch] at h ⊢
  split at h
  · next hnews =>
    rw [if_pos hnews]
    refine inbox_wake_of_unhurried (f := f') fun e he hgoing count hcount => ?_
    rw [← Clock.after_succ]
    exact h e he hgoing (count + 1) (by rwa [← Nat.add_assoc, Nat.add_right_comm])
  · next hnews => rw [if_neg hnews]

/-- Whether no wait comes to its deadline while frames are taken in from the
coordinator. -/
def InTime : List Frame → SyncRound × Federate μ → Prop
  | [], _ => True
  | f :: frames, s => s.2.Unhurried (hear s f).2 ∧ InTime frames (hear s f)

/-- Nobody comes to a deadline if nobody waits. -/
theorem inTime_of_awaits_eq_nil (frames : List Frame)
    (s : SyncRound × Federate μ) (h : s.2.awaits = []) :
    InTime frames s := by
  induction frames generalizing s with
  | nil => trivial
  | cons frame frames ih =>
    have hunhurried : s.2.Unhurried (hear s frame).2 := by
      rw [Unhurried, h]
      exact List.forall_mem_nil _
    refine ⟨hunhurried, ih _ ?_⟩
    cases hframe : frame.isSync with
    | true =>
      obtain ⟨clock, hclock, -⟩ := exists_clock_of_isSync (s := s) hframe
      rw [hclock]
      exact h
    | false =>
      rw [hear_of_isSync_eq_false hframe]
      simp only [dispatch]
      split
      · simp only [wake, h]
        rfl
      · exact h

/-- If no wait comes to its deadline, the data comes to the same as if nothing
had come besides, but for the stamps. -/
theorem unstamped_hearAll (frames : List Frame) (s : SyncRound × Federate μ)
    {inbox : Inbox} (now : Instant)
    (hinbox : s.2.inbox.unstamped = inbox.unstamped) (h : InTime frames s) :
    (hearAll frames s).2.inbox.unstamped
      = (s.2.plan.dispatchAll .coordinator now
        (Frame.others frames) inbox).unstamped := by
  induction frames generalizing s inbox with
  | nil => exact hinbox
  | cons frame frames ih =>
    obtain ⟨hframe, hrest⟩ := h
    rw [hearAll_cons]
    cases hsync : frame.isSync with
    | true =>
      -- a T1 or a T4 leaves the inbox alone
      obtain ⟨clock, hclock, -⟩ := exists_clock_of_isSync (s := s) hsync
      have hinbox' : (hear s frame).2.inbox.unstamped = inbox.unstamped := by
        rw [hclock]
        exact hinbox
      have hplan : (hear s frame).2.plan = s.2.plan := by
        rw [hclock]
      rw [ih _ hinbox' hrest, hplan, Frame.others_cons_of_isSync hsync]
    | false =>
      rw [hear_of_isSync_eq_false hsync] at hframe hrest ⊢
      obtain ⟨count, hattends⟩ := s.2.attends_dispatch .coordinator frame
      have hdispatch : (s.2.dispatch .coordinator frame).2.inbox.unstamped
          = (s.2.plan.dispatch .coordinator now frame inbox).2.unstamped := by
        rw [inbox_dispatch_of_unhurried hframe]
        exact s.2.plan.unstamped_dispatch _ _ hinbox _ _
      rw [ih _ hdispatch hrest, hattends.plan,
        Frame.others_cons_of_isSync_eq_false hsync, Plan.dispatchAll,
        Plan.dispatchAll, inTurn_cons]

end Federate

end Federation
