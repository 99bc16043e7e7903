/-
Federation/Proofs/CoordinatorReading.lean

What the coordinator says, up to the first thing that is wrong.

The reader of the coordinator's link answers the T1s among the frames, and takes
in the others. Whatever the bytes are, up to the first frame that is malformed
or refused it does what `Federate.hearAll` does, and writes an answer for each
T1 (`readCoordinator_of_stops`, by induction on the frames); then it reports why
it stops. So all that is known of data and clock synchronisation over one stream
is true of it, and two streams that differ in how the two are mixed lead to the
same, but for the stamps.
-/
import Mathlib
import Federation.Proofs.Interleaving
import Federation.Proofs.Synchronizing

namespace Federation

variable {μ : Type}

/-! ### Answers -/

/-- What a federate refuses from the coordinator: of the frames that are not of
clock synchronisation, what it refuses from anyone. -/
def Plan.Declines (plan : Plan) (f : Frame) (detail : String) : Prop :=
  f.isSync = false ∧ plan.Refuses f detail

/-- An answer for which there is room is sent. -/
theorem Endpoint.send_answer_of_hasRoom {e : Endpoint} {count : Nat}
    (federate : FederateId) (hopen : e.isOpen = true)
    (hroom : e.wire.HasRoom (3 + count)) :
    ∃ wire, e.send (.clockSyncT3 federate) = (.ok (), { e with wire }) ∧
      e.wire.Writes [.clockSyncT3 federate] wire ∧ wire.HasRoom count := by
  obtain ⟨bytes, hencode⟩ :
      ∃ bytes, (Frame.clockSyncT3 federate).encode = .ok bytes :=
    ⟨_, Frame.encode_ok_iff.mpr ⟨trivial, rfl⟩⟩
  rw [← Wire.size_of_answer hencode] at hroom
  obtain ⟨wire, hwrite, hroom'⟩ := Wire.write_of_hasRoom hroom
  have hwrites := Wire.writes_write (w := e.wire) hencode (by rw [hwrite])
  rw [hwrite] at hwrites
  refine ⟨wire, ?_, hwrites, hroom'⟩
  rw [send, encode_of_open hopen, hencode]
  show e.write bytes = _
  rw [write, hwrite]

namespace Stop

/-- The report about the end of what the coordinator says. -/
def coordinatorFault : Stop → Fault
  | .unread e => .ofRead "coordinator" e
  | .refused detail => .protocol "coordinator" detail

end Stop

namespace Node

variable {κ : Type} [FrameSource κ]
variable {n : Node μ} {plan : Plan} {round : SyncRound} {e : Endpoint}
  {s s' : κ} {f : Frame}

/-! ### Frame by frame -/

/-- The node with another federate, and another wire to the coordinator. -/
def reached (n : Node μ) (federate : Federate μ) (e : Endpoint)
    (wire : Wire) : Node μ :=
  { n with federate, transport := n.transport.setCoordinator { e with wire } }

theorem reached_self (hlink : n.transport.coordinator = some e)
    (federate : Federate μ) :
    n.reached federate e e.wire = { n with federate } := by
  rw [reached, Transport.setCoordinator, ← hlink]

/-- A T1 is answered. -/
theorem takeFromCoordinator_T1 {count : Nat} (round : SyncRound)
    (hlink : n.transport.coordinator = some e) (hopen : e.isOpen = true)
    (hroom : e.wire.HasRoom (3 + count)) (time : Instant) :
    ∃ wire, e.wire.Writes [.clockSyncT3 n.transport.federate] wire ∧
      wire.HasRoom count ∧ n.takeFromCoordinator (.clockSyncT1 time) round
        = (.ok (), (Federate.hear (round, n.federate) (.clockSyncT1 time)).1,
            n.reached (Federate.hear (round, n.federate) (.clockSyncT1 time)).2
              e wire) := by
  obtain ⟨wire, hsend, hwrites, hroom'⟩ :=
    Endpoint.send_answer_of_hasRoom n.transport.federate hopen hroom
  refine ⟨wire, hwrites, hroom', ?_⟩
  have hpost : Transport.post
      ⟨.coordinator, .clockSyncT3 n.transport.federate⟩ n.transport
      = (.ok (), n.transport.setCoordinator { e with wire }) := by
    rw [Transport.post_coordinator,
      Transport.sendToCoordinator_of_some _ hlink, hsend]
  simp only [takeFromCoordinator, answerT1, withSync, Node.send, hpost]
  rfl

theorem takeFromCoordinator_T4 (hlink : n.transport.coordinator = some e)
    (time : Instant) :
    n.takeFromCoordinator (.clockSyncT4 time) round
      = (.ok (), (Federate.hear (round, n.federate) (.clockSyncT4 time)).1,
          n.reached (Federate.hear (round, n.federate) (.clockSyncT4 time)).2 e
            e.wire) := by
  rw [reached_self hlink]
  rfl

theorem takeFromCoordinator_of_isSync_eq_false (hf : f.isSync = false) :
    n.takeFromCoordinator f round
      = ((n.dispatch .coordinator f).1.map fun _ => (), round,
        (n.dispatch .coordinator f).2) := by
  cases f with
  | clockSyncT1 time => cases hf
  | clockSyncT4 time => cases hf
  | _ => rfl

theorem takeFromCoordinator_of_accepts (hsync : f.isSync = false)
    (hf : ∀ detail, ¬ n.federate.plan.Declines f detail) :
    n.takeFromCoordinator f round
      = (.ok (), round, (n.dispatch .coordinator f).2) := by
  have hok : (n.dispatch .coordinator f).1.isOk = true :=
    Federate.isOk_dispatch_of_accepts
      (fun detail hrefuses => hf detail ⟨hsync, hrefuses⟩) _
  rw [takeFromCoordinator_of_isSync_eq_false hsync]
  rcases hdispatch : n.dispatch .coordinator f with ⟨fault | outcome, n'⟩
  · rw [hdispatch] at hok
    cases hok
  · rfl

/-! ### Up to the stop -/

theorem unlessShuttingDown_eq (hrunning : n.transport.shuttingDown = false)
    (fault : Fault) :
    n.unlessShuttingDown fault = n.stopped 0 (some fault) := by
  rw [unlessShuttingDown, hrunning]
  rfl

theorem readCoordinator_of_unread {error : FrameError}
    (h : FrameSource.next s = (.error error, s'))
    (hrunning : n.transport.shuttingDown = false) :
    n.readCoordinator s round
      = (round, n.stopped 0 (some (Stop.unread error).coordinatorFault)) := by
  rw [readCoordinator]
  split
  · next h' =>
    cases h.symm.trans h'
    rw [unlessShuttingDown_eq hrunning]
    rfl
  · next h' => cases h.symm.trans h'

theorem readCoordinator_of_declined (h : FrameSource.next s = (.ok f, s'))
    {detail : String} (hf : n.federate.plan.Declines f detail)
    (hrunning : n.transport.shuttingDown = false) :
    n.readCoordinator s round
      = (round, n.stopped 1 (some (Stop.refused detail).coordinatorFault)) := by
  obtain ⟨hsync, hrefuses⟩ := hf
  have htake : n.takeFromCoordinator f round
      = (.error (.protocol "coordinator" detail), round,
          { n with
            federate := { n.federate with clock := n.federate.clock.tick } }) := by
    rw [takeFromCoordinator_of_isSync_eq_false hsync, dispatch,
      Federate.dispatch_of_refuses hrefuses]
    rfl
  rw [readCoordinator]
  split
  · next h' => cases h.symm.trans h'
  · next h' =>
    cases h.symm.trans h'
    rw [htake]
    dsimp only
    rw [unlessShuttingDown_eq (by exact hrunning)]
    rfl

theorem readCoordinator_of_taken {round' : SyncRound} {n' : Node μ}
    (h : FrameSource.next s = (.ok f, s'))
    (htake : n.takeFromCoordinator f round = (.ok (), round', n')) :
    n.readCoordinator s round = n'.readCoordinator s' round' := by
  conv_lhs => rw [readCoordinator]
  split
  · next h' => cases h.symm.trans h'
  · next h' =>
    cases h.symm.trans h'
    rw [htake]

/-- The reader does what is done if the frames before the stop are taken in,
answers each T1, and then reports the stop. What is written is up to the frames,
whatever source they come from. -/
theorem readCoordinator_of_stops (frames : List Frame) (round : SyncRound)
    (hplan : n.federate.plan = plan) (hrunning : n.transport.shuttingDown = false)
    (hlink : n.transport.coordinator = some e) (hopen : e.isOpen = true)
    (hroom : e.wire.HasRoom (3 * frames.countP Frame.isT1)) :
    ∃ wire,
      e.wire.Writes (List.replicate (frames.countP Frame.isT1)
        (.clockSyncT3 n.transport.federate)) wire ∧
      ∀ (s : κ) (stop : Stop), Stops plan.Declines s frames stop →
        n.readCoordinator s round
          = ((Federate.hearAll frames (round, n.federate)).1,
            (n.reached (Federate.hearAll frames (round, n.federate)).2 e
              wire).stopped stop.readings (some stop.coordinatorFault)) := by
  subst hplan
  induction frames generalizing n round e with
  -- the stop is the first thing that comes
  | nil =>
    refine ⟨e.wire, .refl _, fun s stop h => ?_⟩
    rw [reached_self hlink]
    cases h with
    | unread h =>
      rw [readCoordinator_of_unread h hrunning]
      rfl
    | refused h hf =>
      rw [readCoordinator_of_declined h hf hrunning]
      rfl
  | cons f frames ih =>
    rw [Federate.hearAll_cons]
    rcases f.sync_cases with ⟨time, rfl⟩ | ⟨time, rfl⟩ | hsync
    · have hcount : (Frame.clockSyncT1 time :: frames).countP Frame.isT1
          = frames.countP Frame.isT1 + 1 :=
        List.countP_cons_of_pos rfl
      -- the answer takes three bytes of the room, and leaves three for each of
      -- the others
      rw [hcount, Nat.mul_succ, Nat.add_comm] at hroom
      obtain ⟨wire, hwrites, hroom', htake⟩ :=
        takeFromCoordinator_T1 round hlink hopen hroom time
      obtain ⟨wire', hwrites', hread⟩ :=
        ih (n := n.reached
          (Federate.hear (round, n.federate) (.clockSyncT1 time)).2 e wire)
          (e := { e with wire })
          (Federate.hear (round, n.federate) (.clockSyncT1 time)).1 hrunning
          rfl hopen hroom'
      rw [hcount, List.replicate_succ]
      refine ⟨wire', hwrites.trans hwrites', fun s stop h => ?_⟩
      cases h with
      | taken h _ hrest =>
        rw [readCoordinator_of_taken h htake]
        exact hread _ stop hrest
    · -- a T4 corrects the clock, and nothing is sent
      have hcount : (Frame.clockSyncT4 time :: frames).countP Frame.isT1
          = frames.countP Frame.isT1 :=
        List.countP_cons_of_neg Bool.false_ne_true
      have hplan : (Federate.hear (round, n.federate) (.clockSyncT4 time)).2.plan
          = n.federate.plan := by
        rw [Federate.hear_T4]
      rw [hcount] at hroom ⊢
      obtain ⟨wire, hwrites, hread⟩ :=
        ih (n := n.reached
            (Federate.hear (round, n.federate) (.clockSyncT4 time)).2 e e.wire)
          (Federate.hear (round, n.federate) (.clockSyncT4 time)).1 hrunning rfl
          hopen hroom
      refine ⟨wire, hwrites, fun s stop h => ?_⟩
      cases h with
      | taken h _ hrest =>
        rw [readCoordinator_of_taken h (takeFromCoordinator_T4 hlink time)]
        exact hread _ stop (hplan ▸ hrest)
    · -- data is dispatched, and nothing is sent
      have hcount : (f :: frames).countP Frame.isT1 = frames.countP Frame.isT1 :=
        List.countP_cons_of_neg
          (by rw [Frame.isT1_of_isSync_eq_false hsync]; exact Bool.false_ne_true)
      rw [hcount] at hroom ⊢
      rw [Federate.hear_of_isSync_eq_false hsync]
      obtain ⟨wire, hwrites, hread⟩ :=
        ih (n := (n.dispatch .coordinator f).2) round hrunning hlink hopen hroom
      refine ⟨wire, hwrites, fun s stop h => ?_⟩
      cases h with
      | taken h hf hrest =>
        rw [readCoordinator_of_taken h (takeFromCoordinator_of_accepts hsync hf)]
        exact hread _ stop ((plan_dispatch n .coordinator f).symm ▸ hrest)

/-! ### Bytes that come from the coordinator -/

/-- Reads the bytes that come from the coordinator. -/
def readBytes (n : Node μ) (round : SyncRound) (bytes : ByteArray) :
    SyncRound × Node μ :=
  n.readCoordinator ({ bytes } : Cursor) round

/-- So many T1s have been answered over the endpoint `e`, and nothing else was
sent. -/
def Answers (n : Node μ) (e : Endpoint) (count : Nat) (n' : Node μ) : Prop :=
  ∃ wire, n'.transport = n.transport.setCoordinator { e with wire } ∧
    e.wire.Writes (List.replicate count (.clockSyncT3 n.transport.federate)) wire

/-- No wait of the federate comes to its deadline while the frames are taken in. -/
def InTime (n : Node μ) (round : SyncRound) (taken : List Frame) : Prop :=
  Federate.InTime taken (round, n.federate)

/-- The inbox holds what it would if the data among the frames had come alone
and with no clock at all, but for the stamps of arrival. -/
def HoldsData (n : Node μ) (taken : List Frame) (n' : Node μ) : Prop :=
  ∀ now, n'.federate.inbox.unstamped
    = (n.federate.plan.dispatchAll .coordinator now
      (Frame.others taken) n.federate.inbox).unstamped

/-- **Data and clock synchronisation are kept apart.** Whatever bytes come from
the coordinator, let there be room for the answers to the T1s in front of the
first frame that is malformed or refused. The T1s are answered, and neither the
data nor the T1s and T4s make a difference to what comes of the others. Then
just one fault is reported, which tells of that frame or of the end, and bytes
behind that frame make no difference. How data and clock synchronisation are
mixed shows in neither the answers nor, if no wait is late, the data. -/
theorem coordinator_reading (n : Node μ) (round : SyncRound) (e : Endpoint)
    (bytes : ByteArray) (hrunning : n.transport.shuttingDown = false)
    (hlink : n.transport.coordinator = some e) (hopen : e.isOpen = true) :
    (∃ taken stop, TakenFrom n.federate.plan.Declines bytes taken stop) ∧
    ∀ taken stop, TakenFrom n.federate.plan.Declines bytes taken stop →
      e.wire.HasRoom (3 * taken.countP Frame.isT1) →
      let (round', n') := n.readBytes round bytes
      n.Answers e (taken.countP Frame.isT1) n' ∧
      Federate.Synced taken (round, n.federate) (round', n'.federate) ∧
      Federate.DispatchedAlone taken n.federate n'.federate ∧
      (n.InTime round taken → n.HoldsData taken n') ∧
      n'.faults = n.faults ++ [stop.coordinatorFault] ∧
      (∀ error, stop = .unread error →
        (error.isDisconnect = true ↔ error = .io .endOfInput)) ∧
      (stop ≠ .unread (.io .endOfInput) →
        ∀ more, n.readBytes round (bytes ++ more) = n.readBytes round bytes) ∧
      ∀ bytes' taken' stop',
        TakenFrom n.federate.plan.Declines bytes' taken' stop' →
        Frame.others taken' = Frame.others taken →
          Frame.syncs taken' = Frame.syncs taken →
        let (_, n'') := n.readBytes round bytes'
        n.Answers e (taken.countP Frame.isT1) n'' ∧
        (n.InTime round taken → n.InTime round taken' →
          n''.federate.inbox.unstamped = n'.federate.inbox.unstamped) := by
  refine ⟨exists_stops _ _, fun taken stop h hroom => ?_⟩
  -- one wire for all bytes that are read like these, so more bytes behind them
  -- lead to the same state
  obtain ⟨wire, hwrites, hread⟩ :=
    readCoordinator_of_stops
      (κ := Cursor) taken round rfl hrunning hlink hopen hroom
  -- by itself the data would leave the same inbox
  have hinbox {frames : List Frame} (htime : n.InTime round frames)
      (now : Instant) :
      (Federate.hearAll frames (round, n.federate)).2.inbox.unstamped
        = (n.federate.plan.dispatchAll .coordinator now
          (Frame.others frames) n.federate.inbox).unstamped :=
    Federate.unstamped_hearAll frames _ now rfl htime
  simp only [readBytes]
  rw [hread _ stop h]
  refine ⟨⟨wire, rfl, hwrites⟩, Federate.synced_hearAll taken (round, n.federate),
    Federate.dispatchedAlone_hearAll taken (round, n.federate), hinbox, rfl,
    ?_, ?_, ?_⟩
  · rintro error rfl
    exact h.isDisconnect_iff
  · exact fun hstop more => hread _ stop (h.append hstop more)
  · intro bytes' taken' stop' h' hothers hsyncs
    -- as many T1s, and so room for all answers
    have hcount : taken'.countP Frame.isT1 = taken.countP Frame.isT1 := by
      rw [← Frame.countP_isT1_syncs, hsyncs, Frame.countP_isT1_syncs]
    obtain ⟨wire', hwrites', hread'⟩ :=
      readCoordinator_of_stops
        (κ := Cursor) taken' round rfl hrunning hlink hopen (hcount ▸ hroom)
    rw [hread' _ stop' h']
    refine ⟨⟨wire', rfl, hcount ▸ hwrites'⟩, fun htime htime' => ?_⟩
    exact (hinbox htime' .epoch).trans ((hothers ▸ hinbox htime .epoch).symm)

/-- The last federate of a triangle, linked to the coordinator. -/
def linkedLastOfTriangle (plan : Plan) : Node Empty where
  federate := (lastOfTriangle plan).federate
  transport := { federate := ⟨2⟩, coordinator := some { peer := .coordinator } }

/-- A T1 and a T4, then a message, and then a byte with which no frame begins. -/
def messageBehindSync : ByteArray :=
  [19, 12, 0, 0, 0, 0, 0, 0, 0, 21, 43, 0, 0, 0, 0, 0, 0, 0,
    5, 1, 0, 2, 0, 0, 0, 0, 0, 0, 0, 0, 0, 0, 0, 0, 0, 9, 0, 0, 0, 99].toByteArray

/-- The same with the message between the T1 and the T4. -/
def messageAmidSync : ByteArray :=
  [19, 12, 0, 0, 0, 0, 0, 0, 0,
    5, 1, 0, 2, 0, 0, 0, 0, 0, 0, 0, 0, 0, 0, 0, 0, 0, 9, 0, 0, 0,
    21, 43, 0, 0, 0, 0, 0, 0, 0, 99].toByteArray

/-- Wherever the message comes, it is taken in, and the T1 is answered; the byte
is reported. -/
theorem coordinator_reading_of_messageAmidSync :
    ∃ receiver, Plan.build ⟨2⟩ Plan.triangle .decentralized (fun _ => .zero)
      = .ok receiver ∧
      let read (bytes : ByteArray) : Node Empty :=
        ((linkedLastOfTriangle receiver).readBytes (.ofExchanges 1) bytes).2
      (read messageAmidSync).faults = [.frame "coordinator" (.unknownType 99)] ∧
      (read messageAmidSync).federate.inbox.unstamped.scheduled
        = [⟨⟨1⟩, .empty, .epoch, some ⟨.epoch, 9⟩⟩] ∧
      (read messageBehindSync).federate.inbox.unstamped
        = (read messageAmidSync).federate.inbox.unstamped ∧
      ∃ wire, (read messageBehindSync).transport.coordinator
        = some { peer := .coordinator, wire } ∧
        ({} : Wire).Writes [.clockSyncT3 ⟨2⟩] wire := by
  obtain ⟨receiver, hbuild⟩ : ∃ receiver,
      Plan.build ⟨2⟩ Plan.triangle .decentralized (fun _ => .zero)
        = .ok receiver := ⟨_, rfl⟩
  let message : Frame := .taggedMessage ⟨⟨1⟩, ⟨2⟩, ⟨.epoch, 9⟩, .empty⟩
  have hmessage :
      (receiver.dispatch .coordinator .epoch message {}).1.isOk = true := by
    cases hbuild
    decide +kernel
  have haccepts (detail : String) : ¬ receiver.Declines message detail :=
    fun hdeclines => Plan.not_refuses_of_isOk hmessage detail hdeclines.2
  have hsync {f : Frame} (hf : f.isSync = true) (detail : String) :
      ¬ receiver.Declines f detail :=
    fun hdeclines => Bool.false_ne_true (hdeclines.1.symm.trans hf)
  -- the frames of the two rows, from the last one back to the first
  have hT4 : Stops receiver.Declines
      ({ bytes := messageAmidSync, position := 30 } : Cursor)
      [.clockSyncT4 ⟨43, by decide⟩] (.unread (.unknownType 99)) :=
    .taken rfl (hsync rfl) (.unread rfl)
  have hbeforeT4 : Stops receiver.Declines
      ({ bytes := messageAmidSync, position := 9 } : Cursor)
      [message, .clockSyncT4 ⟨43, by decide⟩] (.unread (.unknownType 99)) :=
    .taken rfl haccepts hT4
  have hamid : Stops receiver.Declines ({ bytes := messageAmidSync } : Cursor)
      [.clockSyncT1 ⟨12, by decide⟩, message, .clockSyncT4 ⟨43, by decide⟩]
      (.unread (.unknownType 99)) :=
    .taken rfl (hsync rfl) hbeforeT4
  have hlast : Stops receiver.Declines
      ({ bytes := messageBehindSync, position := 18 } : Cursor)
      [message] (.unread (.unknownType 99)) :=
    .taken rfl haccepts (.unread rfl)
  have hbeforeLast : Stops receiver.Declines
      ({ bytes := messageBehindSync, position := 9 } : Cursor)
      [.clockSyncT4 ⟨43, by decide⟩, message] (.unread (.unknownType 99)) :=
    .taken rfl (hsync rfl) hlast
  have hbehind : Stops receiver.Declines ({ bytes := messageBehindSync } : Cursor)
      [.clockSyncT1 ⟨12, by decide⟩, .clockSyncT4 ⟨43, by decide⟩, message]
      (.unread (.unknownType 99)) :=
    .taken rfl (hsync rfl) hbeforeLast
  obtain ⟨-, -, -, hinbox, hfaults, -, -, hother⟩ :=
    (coordinator_reading (linkedLastOfTriangle receiver) (.ofExchanges 1)
      { peer := .coordinator } messageAmidSync rfl rfl rfl).2 _ _ hamid nofun
  obtain ⟨⟨wire, htransport, hwrites⟩, hsame⟩ := hother _ _ _ hbehind rfl rfl
  have htime (frames : List Frame) :
      Federate.InTime frames
        (.ofExchanges 1, (linkedLastOfTriangle receiver).federate) :=
    Federate.inTime_of_awaits_eq_nil frames _ rfl
  refine
    ⟨receiver, hbuild, hfaults, ?_, hsame (htime _) (htime _), wire, ?_, hwrites⟩
  · refine (congrArg Inbox.scheduled (hinbox (htime _) .epoch)).trans ?_
    cases hbuild
    decide +kernel
  · exact congrArg Transport.coordinator htransport

end Node

end Federation
