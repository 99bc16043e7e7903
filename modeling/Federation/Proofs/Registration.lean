/-
Federation/Proofs/Registration.lean

A federate and a coordinator that meet.

A federate that starts joins the federation and asks for some exchanges of clock
synchronisation. Here it does so with a coordinator at the other end of the
link, of any federation and with any federates registered.

* A coordinator welcomes a federate of its own federation whose number is in
  range and not in use (`Coordinator.Welcomes`). Then it consents, registers the
  federate with its neighbours (`join_of_welcomes`), and makes and counts as
  many exchanges as the federate asks for, each of two readings of either clock.
  The federate knows when the last one is over: after it, nothing is on its way
  in either direction, and the coordinator may be asked anything
  (`collect_of_exchanging`, by induction over the exchanges).
* Otherwise it declines for the first of three reasons (`Coordinator.Declines`),
  says so once, and what it knows of the federates stays as it was. The federate
  fails with that reason (`join_of_declines`).

The main result (`registration_and_synchronization`) puts this together for a
coordinator that hears as late as it likes.
-/
import Mathlib
import Federation.Proofs.Latency
import Federation.Proofs.Opening

namespace Federation

open Procedure

/-- The clock after so many more readings. -/
def Clock.after (c : Clock) (count : Nat) : Clock :=
  { c with readCount := c.readCount + count }

theorem Clock.after_succ (c : Clock) (count : Nat) :
    c.after (count + 1) = c.tick.after count := by
  rw [after, Nat.add_comm count, ← Nat.add_assoc]
  rfl

theorem Clock.after_two_after (c : Clock) (count : Nat) :
    (c.after 2).after (2 * count) = c.after (2 * (count + 1)) := by
  simp only [Clock.after]
  congr 1
  omega

/-- What some exchanges make of the differences between two clocks. Each clock
is read twice in each. -/
def ClockSync.estimates (coordinator federate : Clock) : Nat → List Interval
  | 0 => []
  | n + 1 =>
    estimate coordinator.now federate.now federate.tick.now coordinator.tick.now ::
      estimates (coordinator.after 2) (federate.after 2) n

namespace Coordinator

variable {c : Coordinator} {f : FederateId} {id : String} {reason : RejectReason}

/-! ### Whom a coordinator welcomes -/

/-- Whom a coordinator welcomes. -/
structure Welcomes (c : Coordinator) (f : FederateId) (id : String) : Prop where
  federation : id = c.federationId
  inRange : f.number < c.federates
  free : f ∉ c.registry.connected

/-- Whom a coordinator declines, and for which reason: the first that applies. -/
inductive Declines (c : Coordinator) (f : FederateId) : String → RejectReason → Prop
  | federation {id : String} (h : id ≠ c.federationId) :
      Declines c f id .federationIdMismatch
  | range (h : c.federates ≤ f.number) :
      Declines c f c.federationId .federateIdOutOfRange
  | inUse (hrange : f.number < c.federates) (h : f ∈ c.registry.connected) :
      Declines c f c.federationId .federateIdInUse

theorem welcomes_or_declines (c : Coordinator) (f : FederateId) (id : String) :
    c.Welcomes f id ∨ ∃ reason, c.Declines f id reason := by
  by_cases hid : id = c.federationId
  · subst hid
    by_cases hrange : f.number < c.federates
    · by_cases hfree : f ∈ c.registry.connected
      · exact .inr ⟨_, .inUse hrange hfree⟩
      · exact .inl ⟨rfl, hrange, hfree⟩
    · exact .inr ⟨_, .range (UInt16.not_lt.mp hrange)⟩
  · exact .inr ⟨_, .federation hid⟩

theorem refusal?_of_welcomes (h : c.Welcomes f id) : c.refusal? f id = none := by
  have hrange := UInt16.not_le.mpr h.inRange
  simp [refusal?, h.federation, hrange, h.free]

theorem refusal?_of_declines (h : c.Declines f id reason) :
    c.refusal? f id = some reason := by
  cases h with
  | federation h => simp [refusal?, h]
  | range h => simp [refusal?, h]
  | inUse hrange h => simp [refusal?, UInt16.not_le.mpr hrange, h]

/-! ### What a coordinator knows afterwards -/

/-- The coordinator after a federate has joined and told its neighbours. -/
def enrol (c : Coordinator) (f : FederateId) (neighbors : Neighbors) :
    Coordinator :=
  c.record fun r =>
    { r with connected := r.connected.insert f
             neighbors := r.neighbors.insert f neighbors }

/-- The coordinator after so many exchanges. -/
def afterExchanges (c : Coordinator) (count : Nat) : Coordinator :=
  { c.record fun r => { r with exchanges := r.exchanges + count } with
    clock := c.clock.after (2 * count) }

/-- The coordinator after it has declined a federate. -/
def afterDeclining (c : Coordinator) (reason : RejectReason) : Coordinator :=
  c.record fun r => { r with rejections := r.rejections ++ [reason] }

end Coordinator

namespace Hearing

variable {c : Coordinator} {f : FederateId} {id : String} {neighbors : Neighbors}
  {reason : RejectReason}
variable {d : Dialogue Hearing}

/-! ### Joining -/

/-- A frame that has a form of its own on the wire is heard as it was sent. -/
theorem send_eq (frame : Frame) (peer : String) (hlimits : frame.WithinLimits)
    (hrep : frame.Representable) (d : Dialogue Hearing) :
    Conversation.send peer frame d
      = (.ok (), { d with link := d.link.hear frame }) := by
  obtain ⟨bytes, hencode, hdecode⟩ := Frame.exists_decode_encode hlimits hrep
  have htake : d.link.take bytes = d.link.hear frame := by rw [take, hdecode]
  have hsend : Link.send frame d.link = (.ok (), d.link.hear frame) := by
    rw [← htake]
    exact send_of_encode hencode
  exact Conversation.send_of_send hsend peer

/-- What waits for the federate is received first come, first served. -/
theorem receive_eq {frame : Frame} {frames : List Frame} (peer : String)
    (hd : d.link.pending = frame :: frames) :
    Conversation.receive peer d
      = (.ok frame, { d with link := { d.link with pending := frames } }) := by
  have hnext : FrameSource.next d.link
      = (.ok frame, { d.link with pending := frames }) := by
    show d.link.next = _
    rw [next, hd]
  exact Conversation.receive_of_next hnext peer

theorem join_of_welcomes (hwelcome : c.Welcomes f id)
    (hid : (Frame.joinFederation f id).Representable)
    (hlimits : (Frame.neighborStructure neighbors).WithinLimits)
    (hneighbors : (Frame.neighborStructure neighbors).Representable)
    (hd : d.link = { coordinator := c }) :
    Joining.join f id neighbors d
      = (.ok (), { d with
          link := { coordinator := c.enrol f neighbors, phase := .relaying f } }) := by
  obtain ⟨link, clock, inbox, pauses⟩ := d
  subst hd
  have hhear : ({ coordinator := c } : Hearing).hear (.joinFederation f id)
      = { coordinator := c.record fun r => { r with connected := r.connected.insert f }
          phase := .introducing f, pending := [.ack] } := by
    simp [hear, Coordinator.hear, Coordinator.hearGreeting,
      Coordinator.refusal?_of_welcomes hwelcome, post]
  rw [Joining.join,
    bind_of_ok (send_eq (.joinFederation f id) _ trivial hid _), hhear]
  rw [bind_of_ok (receive_eq _ rfl)]
  exact send_eq _ _ hlimits hneighbors _

theorem join_of_declines (neighbors : Neighbors)
    (hdecline : c.Declines f id reason)
    (hid : (Frame.joinFederation f id).Representable)
    (hd : d.link = { coordinator := c }) :
    Joining.join f id neighbors d
      = (.error (.rejected "coordinator" reason),
          { d with
            link := { coordinator := c.afterDeclining reason, phase := .ended } }) := by
  obtain ⟨link, clock, inbox, pauses⟩ := d
  subst hd
  have hhear : ({ coordinator := c } : Hearing).hear (.joinFederation f id)
      = { coordinator := c.afterDeclining reason, phase := .ended
          pending := [.reject reason] } := by
    simp [hear, Coordinator.hear, Coordinator.hearGreeting,
      Coordinator.refusal?_of_declines hdecline, post, Coordinator.reject,
      Coordinator.afterDeclining]
  rw [Joining.join,
    bind_of_ok (send_eq (.joinFederation f id) _ trivial hid _), hhear]
  rw [bind_of_ok (receive_eq _ rfl)]
  rfl

/-! ### Synchronising the clock -/

/-- The coordinator has so many exchanges to make with a federate. It has begun
the first, if there is one. -/
def exchanging (c : Coordinator) (f : FederateId) : Nat → Hearing
  | 0 => { coordinator := c, phase := .relaying f }
  | more + 1 =>
    { coordinator := c.tick, phase := .syncing f more
      pending := [.clockSyncT1 c.clock.now] }

theorem hear_request (c : Coordinator) (f : FederateId) (exchanges : UInt16) :
    ({ coordinator := c, phase := .relaying f } : Hearing).hear
      (.clockSyncRequest exchanges) = exchanging c f exchanges.toNat := by
  have hmember : c.hear (.relaying f) (.clockSyncRequest exchanges)
      = if exchanges = 0 then (c, .relaying f, [])
        else c.beginExchange f (exchanges.toNat - 1) := rfl
  rw [hear, hmember]
  by_cases hzero : exchanges = 0
  · rw [if_pos hzero, hzero]
    rfl
  · have hpos : exchanges.toNat ≠ 0 := fun h => hzero (UInt16.toNat_inj.mp h)
    obtain ⟨more, hmore⟩ := Nat.exists_eq_succ_of_ne_zero hpos
    rw [if_neg hzero, hmore]
    rfl

theorem hear_answer (c : Coordinator) (f g : FederateId) (more : Nat) :
    ({ exchanging c f (more + 1) with pending := [] } : Hearing).hear
      (.clockSyncT3 g) = (exchanging (c.afterExchanges 1) f more).behind
        [.clockSyncT4 c.clock.tick.now] := by
  cases more <;> rfl

/-- In one exchange either side reads its clock twice, and then one exchange
less is to be made. -/
theorem exchange_of_exchanging {more : Nat}
    (hd : d.link = exchanging c f (more + 1)) (g : FederateId) :
    ClockSync.exchange g d
      = (.ok (ClockSync.estimate c.clock.now d.clock.now d.clock.tick.now
        c.clock.tick.now),
          { d with link := exchanging (c.afterExchanges 1) f more
                   clock := d.clock.after 2 }) := by
  obtain ⟨link, clock, inbox, pauses⟩ := d
  subst hd
  have hT1 : ClockSync.await .t1
      { link := exchanging c f (more + 1), clock, inbox, pauses }
      = (.ok c.clock.now,
          { link := { exchanging c f (more + 1) with pending := [] }
            clock, inbox, pauses }) := rfl
  have hT4 (h : Hearing) (time : Instant) (clock : Clock) :
      ClockSync.await .t4
        { link := h.behind [.clockSyncT4 time], clock, inbox, pauses }
        = (.ok time, { link := h, clock, inbox, pauses }) := rfl
  rw [ClockSync.exchange, bind_of_ok hT1, bind_of_ok (Conversation.now_apply _)]
  rw [bind_of_ok (send_eq (.clockSyncT3 g) _ trivial trivial _), hear_answer]
  rw [bind_of_ok (Conversation.now_apply _), bind_of_ok (hT4 _ _ _)]
  rfl

theorem collect_of_exchanging {n : Nat} (hd : d.link = exchanging c f n)
    (g : FederateId) :
    ClockSync.collect g n d
      = (.ok (ClockSync.estimates c.clock d.clock n),
          { d with
            link := { coordinator := c.afterExchanges n, phase := .relaying f }
            clock := d.clock.after (2 * n) }) := by
  induction n generalizing c d with
  | zero =>
    obtain ⟨link, clock, inbox, pauses⟩ := d
    subst hd
    rfl
  | succ n ih =>
    have hcount :
        (c.afterExchanges 1).afterExchanges n = c.afterExchanges (n + 1) := by
      simp only [Coordinator.afterExchanges, Coordinator.record, Nat.mul_one,
        Clock.after_two_after, Nat.add_assoc, Nat.add_comm 1 n]
    rw [ClockSync.collect, bind_of_ok (exchange_of_exchanging hd g),
      bind_of_ok (ih rfl), hcount]
    simp only [Clock.after_two_after]
    rfl

/-- What comes of the exchanges: a correction, unless none were asked for. -/
def correction? (coordinator federate : Clock) (exchanges : UInt16) :
    Option Interval :=
  if exchanges = 0 then none
  else some
    (ClockSync.mean (ClockSync.estimates coordinator federate exchanges.toNat))

theorem synchronizeClock_of_relaying
    (hd : d.link = { coordinator := c, phase := .relaying f }) (g : FederateId)
    (exchanges : UInt16) :
    ∃ clock, Joining.synchronizeClock g exchanges d
      = (.ok (correction? c.clock d.clock exchanges),
          { d with
            link := { coordinator := c.afterExchanges exchanges.toNat
                      phase := .relaying f }
            clock }) := by
  obtain ⟨link, clock, inbox, pauses⟩ := d
  subst hd
  rw [Joining.synchronizeClock]
  rw [bind_of_ok (send_eq (.clockSyncRequest exchanges) _ trivial trivial _),
    hear_request]
  by_cases hzero : exchanges = 0
  · -- nothing is asked for, and nothing follows
    subst hzero
    exact ⟨clock, rfl⟩
  · have hpos : exchanges.toNat ≠ 0 := fun h => hzero (UInt16.toNat_inj.mp h)
    have hmax : max exchanges.toNat 1 = exchanges.toNat :=
      max_eq_left (Nat.one_le_iff_ne_zero.mpr hpos)
    rw [if_neg hzero, ClockSync.synchronize, hmax, correction?, if_neg hzero]
    rw [bind_assoc, bind_of_ok (collect_of_exchanging rfl g)]
    exact ⟨_, rfl⟩

end Hearing

/-! ### A federate and a coordinator that hears late -/

/-- The conversation of a federate that has said nothing yet. -/
def LateHearing.opened (c : Coordinator) (pace : Nat → Nat) : LateHearing :=
  { hearing := { coordinator := c }, pace }

/-- **A federate and a coordinator speak the same protocol.** A coordinator hears,
as late as it likes, a federate that gives its number and an id, tells the
neighbours of a plan, and asks for exchanges of clock synchronisation. Either it
is welcome: then it is registered with these neighbours, and the exchanges that it
asked for are made, no more and no less. Or there is a first reason to decline:
the coordinator tells it in one frame, and the federate fails with it. -/
theorem registration_and_synchronization (c : Coordinator) (pace : Nat → Nat)
    (f g : FederateId) (id : String) (cs : List Connection) (m : Coordination)
    (stp : Port → Interval) (exchanges : UInt16) (clock : Clock) (inbox : Inbox)
    {plan : Plan} (hid : id.utf8ByteSize ≤ Frame.maxFederationId)
    (hplan : Plan.build g cs m stp = .ok plan) :
    let start : Dialogue LateHearing := { link := .opened c pace, clock, inbox }
    let joining := Joining.join f id plan.neighbors start
    (c.Welcomes f id ∨ ∃ reason, c.Declines f id reason) ∧
    (c.Welcomes f id →
      (c.hear .greeting (.joinFederation f id)).2.2 = [.back .ack] ∧
      joining.1 = .ok () ∧
      joining.2.link.settled
        = { coordinator := c.enrol f plan.neighbors, phase := .relaying f } ∧
      let synchronizing := Joining.synchronizeClock f exchanges joining.2
      synchronizing.1 = .ok (Hearing.correction? c.clock clock exchanges) ∧
      synchronizing.2.link.settled
        = { coordinator := (c.enrol f plan.neighbors).afterExchanges exchanges.toNat
            phase := .relaying f }) ∧
    ∀ reason, c.Declines f id reason →
      (c.hear .greeting (.joinFederation f id)).2.2 = [.back (.reject reason)] ∧
      joining.1 = .error (.rejected "coordinator" reason) ∧
      joining.2.link.settled
        = { coordinator := c.afterDeclining reason, phase := .ended } := by
  intro start joining
  have hgreeting : (Frame.joinFederation f id).Representable :=
    String.size_toByteArray.trans_le hid
  have hneighbors : (Frame.neighborStructure plan.neighbors).WithinLimits :=
    ⟨(Plan.length_upstream_lt hplan).le, (Plan.length_downstream_lt hplan).le⟩
  have hjoin := LateHearing.stands_settled.join f id plan.neighbors
  have hopened : (start.view LateHearing.settled).link = { coordinator := c } := rfl
  refine
    ⟨c.welcomes_or_declines f id, fun hwelcome => ?_, fun reason hdecline => ?_⟩
  · -- what a prompt coordinator comes to, a late one comes to once it has heard
    -- everything
    obtain ⟨joined, hjoined, hview⟩ := hjoin.exists_eq
      (Hearing.join_of_welcomes hwelcome hgreeting hneighbors
        (Plan.told_ne_noDelay hplan) hopened)
    have hlink := congrArg Dialogue.link hview
    have hclock := congrArg Dialogue.clock hview
    obtain ⟨clock', hsynchronize⟩ :=
      Hearing.synchronizeClock_of_relaying hlink f exchanges
    obtain ⟨synchronized, hsynchronized, hview'⟩ :=
      (LateHearing.stands_settled.synchronizeClock f exchanges).exists_eq
        hsynchronize
    simp only [joining, hjoined, hsynchronized]
    refine ⟨?_, trivial, hlink, ?_, congrArg Dialogue.link hview'⟩
    · simp [Coordinator.hear, Coordinator.hearGreeting,
        Coordinator.refusal?_of_welcomes hwelcome]
    · rw [hclock]
      rfl
  · -- the conversation is over with the reason, so there is nothing to synchronise
    obtain ⟨ended, hended, hview⟩ := hjoin.exists_eq
      (Hearing.join_of_declines plan.neighbors hdecline hgreeting hopened)
    simp only [joining, hended]
    refine ⟨?_, trivial, congrArg Dialogue.link hview⟩
    simp [Coordinator.hear, Coordinator.hearGreeting,
      Coordinator.refusal?_of_declines hdecline, Coordinator.reject]

/-- A coordinator of three federates, of which the first is connected. Its clock
is ahead of the epoch. -/
def triangleCoordinator : Coordinator where
  federationId := "triangle"
  federates := 3
  clock := { readings := fun _ => ⟨500, by decide⟩ }
  registry := { connected := {⟨0⟩} }

theorem registration_and_synchronization_on_triangle :
    ∃ plan, Plan.build ⟨2⟩ Plan.triangle .centralized (fun _ => .zero) = .ok plan ∧
      let start : Dialogue LateHearing :=
        { link := .opened triangleCoordinator (· % 2)
          clock := { readings := fun _ => .epoch } }
      let joining := Joining.join ⟨2⟩ "triangle" plan.neighbors start
      let synchronizing := Joining.synchronizeClock ⟨2⟩ 2 joining.2
      joining.1 = .ok () ∧
      synchronizing.1 = .ok (some ⟨500, by decide⟩) ∧
      synchronizing.2.link.settled.coordinator.registry.exchanges = 2 ∧
      (Joining.join ⟨0⟩ "triangle" plan.neighbors start).1
        = .error (.rejected "coordinator" .federateIdInUse) := by
  have hwelcome : triangleCoordinator.Welcomes ⟨2⟩ "triangle" :=
    ⟨rfl, by decide, by simp [triangleCoordinator]⟩
  have hdecline : triangleCoordinator.Declines ⟨0⟩ "triangle" .federateIdInUse :=
    .inUse (by decide) (by simp [triangleCoordinator])
  have hregister (f : FederateId) :=
    registration_and_synchronization triangleCoordinator (· % 2) f
      ⟨2⟩ "triangle" Plan.triangle .centralized (fun _ => .zero) 2
      { readings := fun _ => .epoch } {}
    (by decide) rfl
  obtain ⟨-, hjoin, -, hsynchronize, hsettled⟩ := (hregister ⟨2⟩).2.1 hwelcome
  refine ⟨_, rfl, hjoin, hsynchronize, ?_, ((hregister ⟨0⟩).2.2 _ hdecline).2.1⟩
  rw [hsettled]
  rfl

end Federation
