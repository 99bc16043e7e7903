/-
Federation/Proofs/Relaying.lean

Data that the coordinator relays to a federate that starts.

A start is compared with the start in the same network without the data
(`Network.quiet`). Once the federate has joined, the coordinator may say
anything, and the federate reads the link in two places:

* While the clock is synchronised, whatever comes is taken for an answer.
  Without data among as many frames as the exchanges read, nothing is different;
  otherwise the start is over, and the data lost (`synchronize_leave`).
* From then on the data is taken in, in order, wherever it comes, and the start
  goes on in step with the one without data.

`relayed_data_at_start` says so of every start that goes well without the data.
-/
import Mathlib
import Federation.Proofs.InStep

namespace Federation

variable {μ : Type}

open Procedure Start Disturbance

/-! ### A network without data -/

/-- The same network, but that the coordinator relays no data. -/
def Network.quiet (net : Network) : Network :=
  { net with coordinator := fun n => (net.coordinator n).map CoordinatorLink.quiet }

theorem RetryPolicy.run_map {α β : Type} (policy : RetryPolicy) (what : String)
    (attempt : Nat → Except IoError α) (g : α → β) :
    (policy.run what fun n => (attempt n).map g).result
      = (policy.run what attempt).result.map g := by
  have hfrom (left n : Nat) :
      (policy.runFrom what (fun n => (attempt n).map g) left n).result
      = (policy.runFrom what attempt left n).result.map g := by
    induction left generalizing n with
    | zero =>
      cases h : attempt n with
      | ok a => rw [runFrom_of_ok h, runFrom_of_ok (congrArg (Except.map g) h)]; rfl
      | error e =>
        rw [runFrom_zero_of_error h,
          runFrom_zero_of_error (congrArg (Except.map g) h)]; rfl
    | succ left ih =>
      cases h : attempt n with
      | ok a => rw [runFrom_of_ok h, runFrom_of_ok (congrArg (Except.map g) h)]; rfl
      | error e =>
        rw [runFrom_succ_of_error h,
          runFrom_succ_of_error (congrArg (Except.map g) h)]
        exact ih (n + 1)
  exact hfrom _ 0

theorem Session.openCoordinator_quiet (net : Network) (s : Session μ) :
    s.openCoordinator net.quiet
      = (s.openCoordinator net).map CoordinatorLink.quiet := by
  have hrun :=
    s.config.coordinator.retry.run_map s.coordinatorName net.coordinator
      CoordinatorLink.quiet
  have hmissing : net.quiet.missing = net.missing := rfl
  have hcoordinator : net.quiet.coordinator = fun n =>
      (net.coordinator n).map CoordinatorLink.quiet := rfl
  simp only [openCoordinator]
  rw [hmissing, hcoordinator, hrun]
  cases (s.config.coordinator.retry.run s.coordinatorName
    net.coordinator).result with
  | error e => rfl
  | ok link => cases net.missing .coordinatorAddress <;> rfl

/-! ### Synchronising the clock among data -/

namespace Disturbance

/-- The samples are collected, and then the clock is corrected by them. -/
theorem synchronizeClock_eq {σ : Type} [Link σ] (federate : FederateId)
    (exchanges : UInt16) :
    (Joining.synchronizeClock federate exchanges : Conversation σ (Option Interval))
      = (Conversation.send "coordinator" (.clockSyncRequest exchanges) >>= fun _ =>
        ClockSync.collect federate exchanges.toNat) >>= fun samples =>
          if exchanges = 0 then return none
          else do
            Conversation.adjustClock (ClockSync.mean samples)
            return some (ClockSync.mean samples) := by
  by_cases hnone : exchanges = 0
  · subst hnone
    simp only [Joining.synchronizeClock, if_true, bind_assoc, UInt16.toNat_zero,
      ClockSync.collect, pure_bind]
  · have hsome : max exchanges.toNat 1 = exchanges.toNat := by
      have hpos : exchanges.toNat ≠ 0 := fun h => hnone (UInt16.toNat_inj.mp h)
      omega
    simp only [Joining.synchronizeClock, ClockSync.synchronize, if_neg hnone,
      bind_assoc, hsome, pure_bind]

theorem synchronizeClock_leave {federate : FederateId} {exchanges : UInt16}
    {d d' : Dialogue (Socket FrameStream)} {frames : List Frame}
    {correction : Option Interval}
    (h : Joining.synchronizeClock federate exchanges (d.leave (Frame.controls frames))
      = (.ok correction, d')) :
    (∀ f ∈ frames.take (2 * exchanges.toNat), f.isRelayed = false) ∧
        (∃ after : Dialogue (Socket FrameStream),
          Joining.synchronizeClock federate exchanges (d.leave frames)
            = (.ok correction, after.leave (frames.drop (2 * exchanges.toNat))) ∧
          d' = after.leave (Frame.controls (frames.drop (2 * exchanges.toNat))) ∧
            after.inbox = d.inbox) ∨
      (∃ f ∈ frames.take (2 * exchanges.toNat), f.isRelayed = true) ∧
        Disturbed d
          (Joining.synchronizeClock federate exchanges (d.leave frames)) := by
  rw [synchronizeClock_eq] at h ⊢
  obtain ⟨samples, middle, hcollect, hadjust⟩ := exists_of_bind_ok h
  have hreads :=
      (reads_send "coordinator" (.clockSyncRequest exchanges)).bind fun _ =>
    reads_collect federate exchanges.toNat
  rw [Nat.zero_add] at hreads
  rcases hreads d frames samples middle hcollect with
    ⟨hquiet, after, hafter, rfl, hinbox, -⟩
      | ⟨hdata, ⟨expected, f, hf, hfault⟩, hinbox, hoffset⟩
  · refine .inl ⟨hquiet, ?_⟩
    rw [bind_of_ok hafter]
    by_cases hnone : exchanges = 0
    · rw [if_pos hnone] at hadjust ⊢
      cases hadjust
      exact ⟨after, rfl, rfl, hinbox⟩
    · rw [if_neg hnone] at hadjust ⊢
      cases hadjust
      exact
        ⟨{ after with clock := (after.clock.adjust (ClockSync.mean samples)).1 },
          rfl, rfl, hinbox⟩
  · refine .inr ⟨hdata, ?_⟩
    rw [bind_of_error (Prod.ext hfault rfl)]
    exact ⟨⟨expected, f, hf, rfl⟩, hinbox, hoffset⟩

end Disturbance

namespace Session

variable {net : Network} {r : Startup μ} {mixed : List Frame}
  {history : List SessionState}

/-- The frames, of all that come after the welcome, that are read while the
clock is synchronised. -/
def early (s : Session μ) (link : CoordinatorLink) (mixed : List Frame) :
    List Frame :=
  mixed.take (2 * (s.startupExchanges link.isSameHost).toNat)

/-- A start that data has ended while the clock was synchronised. -/
structure Interrupted (r : Startup μ) (history : List SessionState)
    (outcome : Except Fault Unit × Startup μ) :
    Prop where
  fault : ∃ expected f,
    f.isRelayed = true ∧ outcome.1 = .error (ClockSync.unexpected expected f)
  history : outcome.2.session.history = history
  inbox : outcome.2.session.federate.inbox = r.session.federate.inbox
  offset : outcome.2.session.federate.clock.offset = r.session.federate.clock.offset

/-- How a part of a start goes with data that goes well and to `r'` without: in
step with that, if none of the data comes while the clock is synchronised, and
otherwise it is interrupted. -/
def Weathers (r : Startup μ) (mixed : List Frame) (history : List SessionState)
    (outcome : Except Fault Unit × Startup μ) (r' : Startup μ) : Prop :=
  (∀ f ∈ r.session.early r.link mixed, f.isRelayed = false) ∧
      (∃ after, outcome = (.ok (), after) ∧
        Startup.InStep r.session.federate.plan r.session.federate.inbox
          (Frame.relayed mixed) after r') ∨
    (∃ f ∈ r.session.early r.link mixed, f.isRelayed = true) ∧
      Interrupted r history outcome

/-- What follows the exchanges goes alike. -/
theorem weathers_bind {m n : Start μ Unit} {q q' r' : Startup μ}
    (hm : ∀ {r'}, m q' = (.ok (), r') → Weathers r mixed history (m q) r')
    (hn : Alike (Startup.InStep r.session.federate.plan r.session.federate.inbox
        (Frame.relayed mixed)) n n
      (Startup.InStep r.session.federate.plan r.session.federate.inbox
        (Frame.relayed mixed)))
    (h : (m >>= fun _ => n) q' = (.ok (), r')) :
      Weathers r mixed history ((m >>= fun _ => n) q) r' := by
  obtain ⟨⟨⟩, middle, hfirst, hrest⟩ := exists_of_bind_ok h
  rcases hm hfirst with
    ⟨hquiet, after, hafter, hstep⟩
      | ⟨hdata, ⟨expected, f, hf, hfault⟩, hhistory, hinbox, hoffset⟩
  · obtain ⟨hresult, hstep⟩ := hn after middle hstep
    rw [hrest] at hresult hstep
    rw [bind_of_ok hafter]
    exact .inl ⟨hquiet, (n after).2, Prod.ext hresult rfl, hstep⟩
  · rw [bind_of_error (Prod.ext hfault rfl)]
    exact .inr ⟨hdata, ⟨expected, f, hf, rfl⟩, hhistory, hinbox, hoffset⟩

theorem synchronize_leave (hidle : r.session.federate.awaits = [])
    (haccepted : ∀ f ∈ mixed, f.isRelayed = true → ∀ detail,
      ¬ r.session.federate.plan.Refuses f detail) {r' : Startup μ}
    (h : synchronize (r.leave (Frame.controls mixed)) = (.ok (), r')) :
    Weathers r mixed r.session.history (synchronize (r.leave mixed)) r' := by
  let exchanges := r.session.startupExchanges r.link.isSameHost
  let exchanging : Conversation (Socket FrameStream) (Option Interval) :=
    Joining.synchronizeClock r.session.config.federate exchanges
  have hparts (frames : List Frame) : synchronize (r.leave frames)
      = (converse exchanging >>= fun _ => pure ()) (r.leave frames) := by
    have hask : ask id (r.leave frames) = (.ok r.session, r.leave frames) := rfl
    have hget : (get : Start μ (Startup μ)) (r.leave frames)
        = (.ok (r.leave frames), r.leave frames) := rfl
    rw [synchronize, bind_of_ok hask, bind_of_ok hget]
    rfl
  have hconverse := Startup.converse_leave hidle exchanging
  rw [hparts] at h ⊢
  -- the start without data went well, so its exchanges did
  obtain ⟨correction, synchronized, hsynchronized, hreturn⟩ := exists_of_bind_ok h
  cases hreturn
  obtain ⟨hok, rfl⟩ :=
    Prod.mk.inj ((hconverse (Frame.controls mixed)).symm.trans hsynchronized)
  rcases synchronizeClock_leave (Prod.ext hok rfl) with
    ⟨hquiet, after, hafter, hrest, hinbox⟩
      | ⟨hdata, ⟨expected, f, hf, hfault⟩, hinbox, hoffset⟩
  · have hafter : exchanging _ = _ := hafter
    have hrest : (exchanging _).2 = _ := hrest
    rw [bind_of_ok ((hconverse mixed).trans (by rw [hafter])), hrest]
    -- nothing has come yet, and all of the data is still behind the exchanges
    refine .inl
      ⟨hquiet, r.resume (after.leave (mixed.drop (2 * exchanges.toNat))), rfl, ?_⟩
    refine
      ⟨⟨after.inbox, after.clock.readCount, rfl⟩, hidle, rfl, ?_, [], hinbox, ?_⟩
    · exact fun f hf => haccepted f (List.mem_of_mem_drop hf)
    · exact Frame.relayed_drop hquiet
  · -- the first frame of data stands where a T1 or a T4 is due
    have hfault : (exchanging _).1 = _ := hfault
    rw [bind_of_error ((hconverse mixed).trans (by rw [hfault]))]
    exact .inr ⟨hdata, ⟨expected, f, hf, rfl⟩, rfl, hinbox, hoffset⟩

theorem joinCoordinator_leave (hidle : r.session.federate.awaits = [])
    (haccepted : ∀ f ∈ mixed, f.isRelayed = true → ∀ detail,
      ¬ r.session.federate.plan.Refuses f detail) {r' : Startup μ}
    (h : joinCoordinator net (r.leave (.ack :: Frame.controls mixed)) = (.ok (), r')) :
    Weathers r mixed (.connectedToCoordinator :: r.session.history)
      (joinCoordinator net (r.leave (.ack :: mixed))) r' := by
  let joining : Conversation (Socket FrameStream) Unit :=
    Joining.join r.session.config.federate r.session.config.federationId
      r.session.federate.plan.neighbors
  let joined (d : Dialogue (Socket FrameStream)) : Startup μ :=
    let s := (r.resume d).session
    { r.resume d with session := s.enter .connectedToCoordinator }
  have hask (frames : List Frame) :
      ask id (r.leave frames) = (.ok r.session, r.leave frames) := rfl
  have hjoined {frames : List Frame} {d : Dialogue (Socket FrameStream)}
      (h : joining (r.dialogue.leave frames) = (.ok (), d)) :
      joinCoordinator net (r.leave frames)
        = (synchronize >>= fun _ => registerCoordinator net) (joined d) := by
    have hconverse : converse joining (r.leave frames) = (.ok (), r.resume d) := by
      rw [Startup.converse_leave hidle, h]
    have hchange : change (·.enter .connectedToCoordinator) (r.resume d)
        = (.ok (), joined d) := rfl
    rw [joinCoordinator, bind_of_ok (hask frames), bind_of_ok hconverse,
      bind_of_ok hchange]
  -- the welcome is the first frame either way, so joining reads no further than
  -- that
  rcases hjoin : joining (r.dialogue.leave (.ack :: Frame.controls mixed)) with
    ⟨e | ⟨⟩, d⟩
  · have hconverse : converse joining (r.leave (.ack :: Frame.controls mixed))
        = (.error e, r.resume d) := by
      rw [Startup.converse_leave hidle, hjoin]
    rw [joinCoordinator, bind_of_ok (hask _), bind_of_error hconverse] at h
    cases h
  · obtain ⟨after, rfl, hinbox, hclock, hother⟩ := join_leave hjoin
    rw [hjoined hjoin] at h
    rw [hjoined (hother mixed)]
    have hidle' : (joined after).session.federate.awaits = [] := hidle
    have hweathers :=
      weathers_bind
        (synchronize_leave hidle' haccepted) alike_registerCoordinator_inStep h
    have hinbox :
        (joined after).session.federate.inbox = r.session.federate.inbox :=
      hinbox
    have hoffset : (joined after).session.federate.clock.offset
        = r.session.federate.clock.offset :=
      congrArg Clock.offset hclock
    -- joining took nothing in, so what comes of the rest comes of the whole
    rcases hweathers with
      ⟨hquiet, q, hq, hstep⟩ | ⟨hdata, hfault, hhistory, hinbox', hoffset'⟩
    · rw [hinbox] at hstep
      exact .inl ⟨hquiet, q, hq, hstep⟩
    · exact .inr
        ⟨hdata, hfault, hhistory, hinbox'.trans hinbox, hoffset'.trans hoffset⟩

theorem startOver_leave (hidle : r.session.federate.awaits = [])
    (haccepted : ∀ f ∈ mixed, f.isRelayed = true → ∀ detail,
      ¬ r.session.federate.plan.Refuses f detail) {r' : Startup μ}
    (h : startOver net (r.leave (.ack :: Frame.controls mixed)) = (.ok (), r')) :
    Weathers r mixed (.connectedToCoordinator :: r.session.history)
      (startOver net (r.leave (.ack :: mixed))) r' :=
  weathers_bind (joinCoordinator_leave hidle haccepted) alike_proceed_inStep h

/-- When the federate turns to the coordinator, nothing has come yet. -/
theorem depart_kept (s : Session μ) :
    s.depart.federate.plan = s.federate.plan ∧
      s.depart.federate.awaits = s.federate.awaits ∧
      s.depart.federate.inbox = s.federate.inbox ∧ s.depart.early = s.early := by
  unfold depart applySkew
  split <;> exact ⟨rfl, rfl, rfl, rfl⟩

/-- **Data that comes at the start.** Let a start go well if the coordinator
relays no data, and let data come among whatever the coordinator says, all of it
for actions of the federate. If none of it comes while the clock is synchronised,
the start goes well as before, and the data has been taken in, each frame once and
in order, or is still to be read. If some of it does, the start is over: the first
frame of data is a fault, the clock is not corrected, and nothing has come. -/
theorem relayed_data_at_start (net : Network) (s : Session μ)
    (link : CoordinatorLink) (mixed : List Frame) (hidle : s.federate.awaits = [])
    (hopen : s.depart.openCoordinator net = .ok link)
    (hframes : link.socket.source.frames = .ack :: mixed)
    (haccepted : ∀ f ∈ mixed,
      f.isRelayed = true → ∀ detail, ¬ s.federate.plan.Refuses f detail)
    (hquiet : (s.start net.quiet).1.isOk = true) :
    ((∀ f ∈ s.early link mixed, f.isRelayed = false) ∧
        ∃ l inbox readCount arrivals,
          (s.start net).1 = .ok l ∧
          s.start net.quiet
            = (.ok l.quiet, (s.start net).2.having inbox readCount) ∧
          (s.start net).2.federate.inbox
            = (inTurn s.federate.plan.dispatchIncoming arrivals
              s.federate.inbox).2 ∧
          (arrivals.filter (·.source = .coordinator)).map (·.frame) ++
            Frame.relayed l.socket.source.frames = Frame.relayed mixed) ∨
      ((∃ f ∈ s.early link mixed, f.isRelayed = true) ∧
        (∃ expected f, f.isRelayed = true ∧
          (s.start net).1 = .error (ClockSync.unexpected expected f)) ∧
        (s.start net).2.history = .connectedToCoordinator :: s.depart.history ∧
        (s.start net).2.federate.inbox = s.federate.inbox ∧
        (s.start net).2.federate.clock.offset
          = s.depart.federate.clock.offset) := by
  have hstate : s.state = .disconnected := by
    by_contra hstate
    rw [start_of_ne hstate] at hquiet
    cases hquiet
  have hopen' : s.depart.openCoordinator net.quiet = .ok link.quiet := by
    rw [openCoordinator_quiet, hopen]
    rfl
  let r : Startup μ := { session := s.depart, link }
  have hcontrols :
      Frame.controls link.socket.source.frames = .ack :: Frame.controls mixed := by
    rw [hframes]
    rfl
  have hleave : r = r.leave (.ack :: mixed) := by
    rw [← hframes]
    rfl
  have hleave' :
      { r with link := link.quiet } = r.leave (.ack :: Frame.controls mixed) := by
    rw [← hcontrols]
    rfl
  -- `startOver` does not open the link, so it is the same in both networks
  have hover (r : Startup μ) : startOver net.quiet r = startOver net r := rfl
  obtain ⟨hplan, hawaits, hinbox, hearly⟩ := depart_kept s
  rw [start_of_ok hstate hopen', hover, hleave'] at hquiet ⊢
  rw [start_of_ok hstate hopen,
    show ({ session := s.depart, link } : Startup μ) = _ from hleave, ← hearly]
  rw [← hplan] at haccepted ⊢
  rw [← hinbox]
  rcases hquietly : startOver net (r.leave (.ack :: Frame.controls mixed)) with
    ⟨e | ⟨⟩, r'⟩
  · rw [hquietly] at hquiet
    cases hquiet
  -- the data among the early frames decides which of the two it is
  rcases startOver_leave (hawaits.trans hidle) haccepted hquietly with
    ⟨hnone, after, hafter, ⟨inbox, readCount, rfl⟩, -, -, -, arrivals,
      harrivals, hdata⟩ |
    ⟨hdata, ⟨expected, f, hf, hfault⟩, hhistory, hbox, hoffset⟩
  · rw [hafter]
    exact .inl
      ⟨hnone, after.link, inbox, readCount, arrivals, rfl, rfl, harrivals, hdata⟩
  · refine .inr ⟨hdata, ⟨expected, f, hf, ?_⟩, hhistory, hbox, hoffset⟩
    rw [hfault]
    rfl

/-- The session of a federate with one input, from a peer that it links to with
best effort, which synchronises its clock by one exchange. -/
def inputSession : Except Fault (Session Empty) := do
  let c : Connection := { source := ⟨⟨1⟩, { name := "sender.out" }⟩
                          destination := ⟨⟨2⟩, { name := "receiver.in" }⟩,
                            valueType := .text }
  let plan ← (Plan.build ⟨2⟩ [c] .centralized fun _ => .zero).mapError fun e =>
      .config e.message
  let clockSync : ClockSyncSettings := { exchanges := 1, force := true }
  let peers : PeerSettings :=
    { outbound := [{ id := ⟨1⟩ }], unreachable := .bestEffort }
  let config : Config := { federate := ⟨2⟩, federationId := "fed" }
  Session.new { config with clockSync, peers } plan ⟨⟨.epoch, 0⟩, ∅⟩
    { readings := fun _ => .epoch } {}

/-- A message for the input. -/
def inputMessage : Frame :=
  .taggedMessage ⟨⟨0⟩, ⟨2⟩, ⟨.epoch, 4⟩, "a".toByteArray.push 0⟩

/-- The network in which the coordinator agrees, and then says the rest. -/
def welcoming (mixed : List Frame) : Network :=
  .scripted ⟨.ack :: mixed, .io .starved⟩

/-- The message comes while the federate waits for an address. -/
def lateMessage : List Frame :=
  [.clockSyncT1 .epoch, .clockSyncT4 .epoch, inputMessage,
    .addressQueryReply (some 15045) .unspecified]

theorem relayed_data_at_start_of_late_message :
    ∃ s, inputSession = .ok s ∧ (s.start (welcoming lateMessage)).1.isOk = true ∧
      ∃ arrivals, (s.start (welcoming lateMessage)).2.federate.inbox
          = (inTurn s.federate.plan.dispatchIncoming arrivals s.federate.inbox).2 ∧
        (arrivals.filter (·.source = .coordinator)).map (·.frame)
          = [inputMessage] := by
  obtain ⟨s, hs⟩ : ∃ s, inputSession = .ok s := ⟨_, rfl⟩
  let link : CoordinatorLink :=
    { socket := { source := ⟨.ack :: lateMessage, .io .starved⟩ }
      remote := .loopback }
  have hopen : s.depart.openCoordinator (welcoming lateMessage) = .ok link := by
    cases hs
    rfl
  have hidle : s.federate.awaits = [] := by
    cases hs
    rfl
  -- the exchanges are over when the message comes
  have hearly :
      s.early link lateMessage = [.clockSyncT1 .epoch, .clockSyncT4 .epoch] := by
    cases hs
    rfl
  have haccepted : ∀ f ∈ lateMessage,
      f.isRelayed = true → ∀ detail, ¬ s.federate.plan.Refuses f detail := by
    have htaken :
        (s.federate.plan.dispatch .coordinator .epoch inputMessage {}).1.isOk
        = true := by
      cases hs
      decide +kernel
    intro f hf hrelayed detail hrefuses
    have hmessage : f = inputMessage := by
      simp only [lateMessage, List.mem_cons, List.not_mem_nil, or_false] at hf
      rcases hf with rfl | rfl | rfl | rfl
      all_goals first | rfl | cases hrelayed
    subst hmessage
    rw [Plan.dispatch_of_refuses _ _ _ hrefuses] at htaken
    cases htaken
  -- without the message the start goes well
  have hquiet : (s.start (welcoming lateMessage).quiet).1.isOk = true := by
    cases hs
    decide +kernel
  have hread : (s.start (welcoming lateMessage)).1.map
      (fun l => Frame.relayed l.socket.source.frames)
      = .ok [] := by
    cases hs
    decide +kernel
  refine ⟨s, hs, ?_⟩
  rcases relayed_data_at_start (welcoming lateMessage) s link lateMessage hidle
    hopen rfl haccepted hquiet with
    ⟨-, l, -, -, arrivals, hstart, -, hinbox, hdata⟩ | ⟨⟨f, hf, hrelayed⟩, -⟩
  · rw [hstart] at hread ⊢
    have hnone : Frame.relayed l.socket.source.frames = [] := Except.ok.inj hread
    rw [hnone, List.append_nil] at hdata
    exact ⟨rfl, arrivals, hinbox, hdata⟩
  · rw [hearly] at hf
    have hcontrol : f = .clockSyncT1 .epoch ∨ f = .clockSyncT4 .epoch := by
      simpa using hf
    rcases hcontrol with rfl | rfl <;> cases hrelayed

/-- How a start ends in which the coordinator says these things. -/
def inputOutcome (mixed : List Frame) :
    Except Fault (Except Fault Unit × SessionState × Nat) := do
  let s ← inputSession
  let (result, s) := s.start (welcoming mixed)
  return (result.map fun _ => (), s.state, s.federate.inbox.scheduled.length)

/-- A start that goes well without the message is over if the message comes
while the clock is synchronised, and the message is lost. -/
theorem relayed_data_may_end_start :
    inputOutcome (Frame.controls [.clockSyncT1 .epoch, inputMessage,
        .clockSyncT4 .epoch, .addressQueryReply (some 15045) .unspecified])
      = .ok (.ok (), .running, 0) ∧
    inputOutcome [.clockSyncT1 .epoch, inputMessage, .clockSyncT4 .epoch,
      .addressQueryReply (some 15045) .unspecified]
      = .ok (.error (.protocol "coordinator"
        "expected clock sync T4, got TaggedMessage"), .connectedToCoordinator, 0) ∧
    inputOutcome lateMessage = .ok (.ok (), .running, 1) := by
  decide +kernel

end Session

end Federation
