/-
Federation/Proofs/Synchronizing.lean

Clock synchronisation at the start, all or nothing.

What a federate receives while it synchronises its clock is compared with what
it waits for, a T1 and a T4 for each exchange. Either as many pairs of them come
as there are exchanges (`Exchanges`), or the frames fall short of that: at some
place there is another frame, or none (`FallsShort`). No frames do both.

One exchange comes to one or the other (`exchange_cases`), and so does a row of
them, by induction (`collect_cases`). The clock is corrected when all is over,
so wherever the frames fall short, it has only been read. A T1 is answered
before anything else is received; but it is taken for a T1 only where one is
due, and so a T1 that comes in the place of a T4 is not answered
(`second_T1_unanswered`).

The correction is the one that a round makes of the same events
(`corrections_of_exchanges`).
-/
import Mathlib
import Federation.Proofs.Admittance
import Federation.Proofs.Registration
import Federation.Proofs.Rounds

namespace Federation

open Procedure

/-! ### Room for some bytes -/

namespace Wire

variable {w : Wire} {count : Nat}

/-- Whether so many bytes more can be written. -/
def HasRoom (w : Wire) (count : Nat) : Prop := ∀ room ∈ w.room, count ≤ room

theorem write_of_hasRoom {bytes : ByteArray} (h : w.HasRoom (bytes.size + count)) :
    ∃ w', w.write bytes = (.ok (), w') ∧ w'.HasRoom count := by
  obtain ⟨written, - | room⟩ := w
  · exact ⟨_, rfl, nofun⟩
  · have hroom : bytes.size + count ≤ room := h room rfl
    refine ⟨⟨written ++ bytes, some (room - bytes.size)⟩, ?_, ?_⟩
    · simp only [write]
      rw [if_pos (by omega)]
    · rintro _ ⟨⟩
      omega

/-- An answer to a T1 takes three bytes. -/
theorem size_of_answer {f : FederateId} {bytes : ByteArray}
    (h : (Frame.clockSyncT3 f).encode = .ok bytes) :
    bytes.size = 3 := by
  obtain ⟨-, rfl⟩ := Frame.encode_ok_iff.mp h
  show (LittleEndian.encode 1 20 ++ LittleEndian.encode 2 f.number.toNat).size = 3
  rw [ByteArray.size_append, LittleEndian.size_encode, LittleEndian.size_encode]

theorem writeFrame_answer_of_hasRoom (f : FederateId) (h : w.HasRoom (3 + count)) :
    ∃ w', w.writeFrame (.clockSyncT3 f) = (.ok (), w') ∧ w'.HasRoom count := by
  obtain ⟨bytes, hencode⟩ : ∃ bytes, (Frame.clockSyncT3 f).encode = .ok bytes :=
    ⟨_, Frame.encode_ok_iff.mpr ⟨trivial, rfl⟩⟩
  rw [← size_of_answer hencode] at h
  obtain ⟨w', hwrite, hroom⟩ := write_of_hasRoom h
  refine ⟨w', ?_, hroom⟩
  rw [writeFrame, hencode]
  dsimp only
  rw [hwrite]
  rfl

end Wire

namespace ClockSync

variable {κ : Type} [FrameSource κ]
variable {s s' s₁ : κ} {fault : Fault} {count asked : Nat}
  {pairs : List (Instant × Instant)}

/-! ### What comes, and what is waited for -/

/-- The frames begin with a T1 and a T4 for each of the pairs, in turn; what
comes after these is left in the last source. -/
inductive Exchanges : κ → List (Instant × Instant) → κ → Prop
  | nil (s : κ) : Exchanges s [] s
  | cons {s s₁ s₂ s' : κ} {t1 t4 : Instant} {pairs : List (Instant × Instant)}
      (hT1 : FrameSource.next s = (.ok (.clockSyncT1 t1), s₁))
      (hT4 : FrameSource.next s₁ = (.ok (.clockSyncT4 t4), s₂))
      (h : Exchanges s₂ pairs s') :
      Exchanges s ((t1, t4) :: pairs) s'

/-- The next frame is not the one that is waited for: the other side went away,
or there is something wrong with the frame, or it is another one. -/
inductive Breaks (a : Awaited) (s : κ) : Fault → κ → Prop
  | lost {e : FrameError} {s' : κ} (h : FrameSource.next s = (.error e, s'))
      (he : e.isDisconnect = true) :
      Breaks a s (.connectionLost "coordinator" e.message) s'
  | malformed {e : FrameError} {s' : κ} (h : FrameSource.next s = (.error e, s'))
      (he : e.isDisconnect = false) : Breaks a s (.frame "coordinator" e) s'
  | other {f : Frame} {s' : κ} (h : FrameSource.next s = (.ok f, s'))
      (hf : ∀ time, f ≠ a.frame time) :
      Breaks a s
        (.protocol "coordinator"
          ("expected clock sync " ++ a.name ++ ", got " ++ f.kindName)) s'

/-- The frames fall short of so many exchanges, with so many T1s where T1s are
due: either at once, or in the first exchange, or after it. -/
inductive FallsShort : Nat → κ → Nat → Fault → κ → Prop
  | atT1 {count : Nat} {s s' : κ} {fault : Fault} (h : Breaks .t1 s fault s') :
      FallsShort (count + 1) s 0 fault s'
  | atT4 {count : Nat} {s s₁ s' : κ} {t1 : Instant} {fault : Fault}
      (hT1 : FrameSource.next s = (.ok (.clockSyncT1 t1), s₁))
      (h : Breaks .t4 s₁ fault s') :
      FallsShort (count + 1) s 1 fault s'
  | later {count asked : Nat} {s s₁ s₂ s' : κ} {t1 t4 : Instant} {fault : Fault}
      (hT1 : FrameSource.next s = (.ok (.clockSyncT1 t1), s₁))
      (hT4 : FrameSource.next s₁ = (.ok (.clockSyncT4 t4), s₂))
      (h : FallsShort count s₂ asked fault s') :
      FallsShort (count + 1) s (asked + 1) fault s'

theorem Breaks.next_ne {a : Awaited} (h : Breaks a s fault s') (time : Instant) :
    FrameSource.next s ≠ (.ok (a.frame time), s₁) := by
  intro hnext
  cases h with
  | lost h => cases h.symm.trans hnext
  | malformed h => cases h.symm.trans hnext
  | other h hf =>
    cases h.symm.trans hnext
    exact hf time rfl

/-- Frames that are enough do not fall short. -/
theorem Exchanges.not_fallsShort (h : Exchanges s pairs s') :
    ¬ FallsShort pairs.length s asked fault s₁ := by
  induction h generalizing asked with
  | nil => exact nofun
  | cons hT1 hT4 _ ih =>
    intro hshort
    cases hshort with
    | atT1 hbreaks => exact hbreaks.next_ne _ hT1
    | atT4 hT1' hbreaks =>
      cases hT1.symm.trans hT1'
      exact hbreaks.next_ne _ hT4
    | later hT1' hT4' hlater =>
      cases hT1.symm.trans hT1'
      cases hT4.symm.trans hT4'
      exact ih hlater

/-- What falls short of one exchange falls short of more. -/
theorem FallsShort.of_one (h : FallsShort 1 s asked fault s') :
    FallsShort (count + 1) s asked fault s' := by
  cases h with
  | atT1 h => exact .atT1 h
  | atT4 hT1 h => exact .atT4 hT1 h
  | later _ _ h => cases h

/-! ### One exchange -/

/-- The dialogue when it has been read up to a place, so much is written, and
the clock is this one. -/
def reached (d : Dialogue (Socket κ)) (source : κ) (wire : Wire)
    (clock : Clock) : Dialogue (Socket κ) :=
  { d with link := { source, wire }, clock }

/-- The dialogue when nothing was done but to read it up to a place. -/
abbrev readTo (d : Dialogue (Socket κ)) (source : κ) : Dialogue (Socket κ) :=
  reached d source d.link.wire d.clock

/-- A frame that is waited for comes, or it does not. -/
theorem await_cases (a : Awaited) (d : Dialogue (Socket κ)) :
    (∃ time s', FrameSource.next d.link.source = (.ok (a.frame time), s') ∧
      await a d = (.ok time, readTo d s')) ∨
    (∃ fault s', Breaks a d.link.source fault s' ∧
      await a d = (.error fault, readTo d s')) := by
  rw [await]
  rcases hnext : FrameSource.next d.link.source with ⟨e | f, s'⟩
  · have hreceive : Conversation.receive "coordinator" d
        = (.error (Fault.ofRead "coordinator" e), readTo d s') :=
      Conversation.receive_of_next (Socket.next_of_source hnext) _
    refine .inr ⟨_, s', ?_, bind_of_error hreceive⟩
    rw [Fault.ofRead]
    split
    · next he => exact .lost hnext he
    · next he => exact .malformed hnext (Bool.eq_false_iff.mpr he)
  · have hreceive : Conversation.receive "coordinator" d = (.ok f, readTo d s') :=
      Conversation.receive_of_next (Socket.next_of_source hnext) _
    rw [bind_of_ok hreceive]
    rcases htime : a.time? f with - | time
    · have hne : ∀ time, f ≠ a.frame time := by
        rintro time rfl
        cases htime.symm.trans (a.time?_frame time)
      exact .inr ⟨_, s', .other hnext hne, rfl⟩
    · obtain rfl := Awaited.time?_eq_some_iff.mp htime
      exact .inl ⟨time, s', rfl, rfl⟩

/-- The answers to so many T1s. -/
def answers (federate : FederateId) (count : Nat) : List Frame :=
  List.replicate count (.clockSyncT3 federate)

/-- A conversation that failed before the clock was corrected. If its answers
found room, the frames fell short of so many exchanges, and each T1 that came
when it was due was answered. -/
structure Failed (federate : FederateId) (count : Nat) (d : Dialogue (Socket κ))
    (fault : Fault) (d' : Dialogue (Socket κ)) : Prop where
  offset : d'.clock.offset = d.clock.offset
  short : d.link.wire.HasRoom (3 * count) → ∃ asked,
    FallsShort count d.link.source asked fault d'.link.source ∧
    d.link.wire.Writes (answers federate asked) d'.link.wire

theorem send_reached {f : Frame} {result : Except FrameError Unit}
    {wire wire' : Wire} (h : wire.writeFrame f = (result, wire'))
    (peer : String) (d : Dialogue (Socket κ)) (clock : Clock) :
    Conversation.send peer f (reached d s wire clock)
      = (result.mapError (Fault.ofWrite peer), reached d s wire' clock) :=
  Conversation.send_of_send (Socket.send_of_writeFrame h) peer

/-- What an exchange can come to. -/
theorem exchange_cases (federate : FederateId) (d : Dialogue (Socket κ)) :
    (∃ t1 t4 s₁ s₂ wire,
      FrameSource.next d.link.source = (.ok (.clockSyncT1 t1), s₁) ∧
      FrameSource.next s₁ = (.ok (.clockSyncT4 t4), s₂) ∧
      d.link.wire.writeFrame (.clockSyncT3 federate) = (.ok (), wire) ∧
      exchange federate d = (.ok (estimate t1 d.clock.now d.clock.tick.now t4),
        reached d s₂ wire (d.clock.after 2))) ∨
    (∃ fault d', exchange federate d = (.error fault, d') ∧
      Failed federate 1 d fault d') := by
  rw [exchange]
  rcases await_cases .t1 d with
    ⟨t1, s₁, hT1, hreceive⟩ | ⟨fault, s₁, hbreaks, hreceive⟩
  · have hasked : Conversation.now (readTo d s₁)
        = (.ok d.clock.now, reached d s₁ d.link.wire d.clock.tick) :=
          Conversation.now_apply _
    rw [bind_of_ok hreceive, bind_of_ok hasked]
    rcases hwrite : d.link.wire.writeFrame (.clockSyncT3 federate) with
      ⟨e | ⟨⟩, wire⟩
    · have hsend : Conversation.send "coordinator" (.clockSyncT3 federate)
          (reached d s₁ d.link.wire d.clock.tick)
          = (.error (Fault.ofWrite "coordinator" e),
            reached d s₁ wire d.clock.tick) :=
        send_reached hwrite _ d _
      rw [bind_of_error hsend]
      refine .inr ⟨_, _, rfl, rfl, fun hroom => ?_⟩
      -- the answer did not go out, so there was no room for it
      have hroom : d.link.wire.HasRoom (3 + 0) := hroom
      obtain ⟨wire', hwrite', -⟩ := Wire.writeFrame_answer_of_hasRoom federate hroom
      cases hwrite.symm.trans hwrite'
    · have hsend : Conversation.send "coordinator" (.clockSyncT3 federate)
          (reached d s₁ d.link.wire d.clock.tick)
          = (.ok (), reached d s₁ wire d.clock.tick) := send_reached hwrite _ d _
      have hanswered : Conversation.now (reached d s₁ wire d.clock.tick)
          = (.ok d.clock.tick.now, reached d s₁ wire d.clock.tick.tick) :=
            Conversation.now_apply _
      rw [bind_of_ok hsend, bind_of_ok hanswered]
      rcases await_cases .t4 (reached d s₁ wire d.clock.tick.tick) with
        ⟨t4, s₂, hT4, hreceive'⟩ | ⟨fault, s₂, hbreaks, hreceive'⟩
      · rw [bind_of_ok hreceive']
        exact .inl ⟨t1, t4, s₁, s₂, wire, hT1, hT4, rfl, rfl⟩
      · rw [bind_of_error hreceive']
        have hwrites := Wire.writes_writeFrame (congrArg Prod.fst hwrite)
        rw [hwrite] at hwrites
        exact .inr ⟨_, _, rfl, rfl, fun _ => ⟨1, .atT4 hT1 hbreaks, hwrites⟩⟩
  · rw [bind_of_error hreceive]
    exact .inr ⟨_, _, rfl, rfl, fun _ => ⟨0, .atT1 hbreaks, .refl _⟩⟩

/-! ### A row of exchanges -/

/-- What the exchanges make of a clock that is read twice in each. -/
def estimated (clock : Clock) : List (Instant × Instant) → List Interval
  | [] => []
  | (t1, t4) :: pairs =>
    estimate t1 clock.now clock.tick.now t4 :: estimated (clock.after 2) pairs

/-- What a row of exchanges can come to. -/
theorem collect_cases (federate : FederateId) (count : Nat)
    (d : Dialogue (Socket κ)) :
    (∃ pairs s wire, pairs.length = count ∧ Exchanges d.link.source pairs s ∧
      d.link.wire.Writes (answers federate count) wire ∧
      collect federate count d = (.ok (estimated d.clock pairs),
        reached d s wire (d.clock.after (2 * count)))) ∨
    (∃ fault d', collect federate count d = (.error fault, d') ∧
      Failed federate count d fault d') := by
  induction count generalizing d with
  | zero => exact .inl ⟨[], d.link.source, d.link.wire, rfl, .nil _, .refl _, rfl⟩
  | succ count ih =>
    rw [collect]
    rcases exchange_cases federate d with
      ⟨t1, t4, s₁, s₂, wire, hT1, hT4, hwrite, hexchange⟩
        | ⟨fault, d', hexchange, hfailed⟩
    · rw [bind_of_ok hexchange]
      have hwrites := Wire.writes_writeFrame (congrArg Prod.fst hwrite)
      rw [hwrite] at hwrites
      rcases ih (reached d s₂ wire (d.clock.after 2)) with
        ⟨pairs, s', wire', hlength, hpairs, hwrites', hcollect⟩
          | ⟨fault, d', hcollect, hfailed⟩
      · rw [bind_of_ok hcollect]
        refine .inl ⟨(t1, t4) :: pairs, s', wire', congrArg (· + 1) hlength,
          .cons hT1 hT4 hpairs, hwrites.trans hwrites', ?_⟩
        rw [← Clock.after_two_after]
        rfl
      · rw [bind_of_error hcollect]
        refine .inr ⟨fault, d', rfl, hfailed.offset, fun hroom => ?_⟩
        -- the first answer leaves room for the others
        obtain ⟨wire', hwrite', hroom'⟩ :=
          Wire.writeFrame_answer_of_hasRoom federate
          (show d.link.wire.HasRoom (3 + 3 * count) by rwa [Nat.add_comm])
        cases hwrite.symm.trans hwrite'
        obtain ⟨asked, hshort, hwrites'⟩ := hfailed.short hroom'
        exact ⟨asked + 1, .later hT1 hT4 hshort, hwrites.trans hwrites'⟩
    · rw [bind_of_error hexchange]
      refine .inr ⟨fault, d', rfl, hfailed.offset, fun hroom => ?_⟩
      obtain ⟨asked, hshort, hwrites⟩ :=
        hfailed.short fun room hmem =>
          (by omega : 3 * 1 ≤ 3 * (count + 1)).trans (hroom room hmem)
      exact ⟨asked, hshort.of_one, hwrites⟩

/-! ### The round that they make -/

/-- The events of exchanges. -/
def events (pairs : List (Instant × Instant)) : List SyncEvent :=
  pairs.flatMap fun (t1, t4) => [.t1 t1, .answer, .t4 t4]

/-- What comes of some events: the corrections that are made, and the state
afterwards. -/
def outcome (events : List SyncEvent) (s : SyncState) : List Interval × SyncState :=
  ((inTurn SyncState.observe events s).1.filterMap (·.correction),
    (inTurn SyncState.observe events s).2)

/-- A round with these estimates, and no exchange under way. -/
def between (exchanges : Nat) (samples : List Interval) : SyncRound :=
  { exchanges, samples }

variable {exchanges : Nat} {samples : List Interval}

/-- What comes of an exchange, and of others after it: its estimate is kept, or
a correction is made with it. -/
theorem outcome_cons (exchanges : Nat) (samples : List Interval) (clock : Clock)
    (t1 t4 : Instant) (pairs : List (Instant × Instant)) :
    outcome (events ((t1, t4) :: pairs)) ⟨between exchanges samples, clock⟩
      = let samples' := estimate t1 clock.now clock.tick.now t4 :: samples
        if samples.length + 1 < exchanges then
          outcome (events pairs) ⟨between exchanges samples', clock.after 2⟩
        else
          let (corrections, s) := outcome (events pairs)
            ⟨between exchanges [], ((clock.after 2).adjust (mean samples')).1⟩
          (mean samples' :: corrections, s) := by
  have hround (t2 t3 : Instant) :
      (((between exchanges samples).onT1 t1 t2).onAnswer t3).onT4 t4
      = if samples.length + 1 < exchanges then
        (between exchanges (estimate t1 t2 t3 t4 :: samples), none)
        else (between exchanges [],
          some (mean (estimate t1 t2 t3 t4 :: samples))) := rfl
  have hevents :
      events ((t1, t4) :: pairs) = .t1 t1 :: .answer :: .t4 t4 :: events pairs :=
    rfl
  simp only [outcome, hevents, inTurn_cons, SyncState.observe, SyncState.onT4_eq,
    SyncState.onT1, SyncState.onAnswer, hround]
  split <;> rfl

/-- Exchanges that complete a round make one correction, of the estimates before
them and of theirs. -/
theorem outcome_events (hne : pairs ≠ [])
    (hlength : samples.length + pairs.length = exchanges) (clock : Clock) :
    let correction := mean ((estimated clock pairs).reverse ++ samples)
    outcome (events pairs) ⟨between exchanges samples, clock⟩
      = ([correction], ⟨between exchanges [],
        ((clock.after (2 * pairs.length)).adjust correction).1⟩) := by
  induction pairs generalizing samples clock with
  | nil => exact absurd rfl hne
  | cons pair pairs ih =>
    obtain ⟨t1, t4⟩ := pair
    rw [List.length_cons] at hlength ⊢
    rcases pairs with - | ⟨next, pairs⟩
    -- only the last exchange completes the round
    · have hlast : ¬ samples.length + 1 < exchanges := Nat.not_lt.mpr hlength.ge
      rw [outcome_cons, if_neg hlast]
      rfl
    · have hmore : samples.length + 1 < exchanges := by
        rw [List.length_cons] at hlength
        omega
      intro correction
      rw [outcome_cons, if_pos hmore, ih (List.cons_ne_nil _ _)
        (by rw [List.length_cons]; omega), Clock.after_two_after]
      have hcorrection : correction
          = mean ((estimated (clock.after 2) (next :: pairs)).reverse
          ++ estimate t1 clock.now clock.tick.now t4 :: samples) := by
        simp only [correction, estimated, List.reverse_cons, List.append_assoc,
          List.cons_append, List.nil_append]
      rw [hcorrection]

theorem length_estimated (clock : Clock) (pairs : List (Instant × Instant)) :
    (estimated clock pairs).length = pairs.length := by
  induction pairs generalizing clock with
  | nil => rfl
  | cons pair pairs ih => exact congrArg (· + 1) (ih _)

/-- The correction at the start is the one that a round makes of the same events. -/
theorem corrections_of_exchanges (hne : pairs ≠ []) (clock : Clock) :
    let correction := mean (estimated clock pairs)
    outcome (events pairs) ⟨{ exchanges := pairs.length }, clock⟩
      = ([correction],
          ⟨{ exchanges := pairs.length },
            ((clock.after (2 * pairs.length)).adjust correction).1⟩) := by
  have hne' : estimated clock pairs ≠ [] := by
    rw [← List.length_pos_iff, length_estimated]
    exact List.length_pos_iff.mpr hne
  have hreverse :
      mean (estimated clock pairs).reverse = mean (estimated clock pairs) := by
    rw [Interval.ext_iff, ns_mean hne', ns_mean (List.reverse_ne_nil_iff.mpr hne'),
      total_reverse, List.length_reverse]
  have hlength : ([] : List Interval).length + pairs.length = pairs.length :=
    Nat.zero_add _
  have hround := outcome_events hne hlength clock
  rwa [List.append_nil, hreverse] at hround

/-! ### All or nothing -/

/-- A conversation that succeeded: as many exchanges as there were to be were
received, and nothing after them; each T1 was answered; and the clock was
corrected once, as a round corrects it that takes the same events. -/
structure Succeeded (federate : FederateId) (count : Nat)
    (d : Dialogue (Socket κ)) (pairs : List (Instant × Instant))
    (correction : Interval) (d' : Dialogue (Socket κ)) : Prop where
  length : pairs.length = count
  received : Exchanges d.link.source pairs d'.link.source
  answered : d.link.wire.Writes (answers federate count) d'.link.wire
  offset : d'.clock.offset = (d.clock.offset.adjust correction).1
  round : outcome (events pairs) ⟨{ exchanges := count }, d.clock⟩
    = ([correction], ⟨{ exchanges := count }, d'.clock⟩)

theorem synchronize_cases (federate : FederateId) (n : UInt16)
    (d : Dialogue (Socket κ)) :
    let m := max n.toNat 1
    (∃ pairs correction d', synchronize federate n d = (.ok correction, d') ∧
      Succeeded federate m d pairs correction d') ∨
    (∃ fault d', synchronize federate n d = (.error fault, d') ∧
      Failed federate m d fault d') := by
  intro m
  have hpos : 0 < m := Nat.lt_of_lt_of_le Nat.zero_lt_one (Nat.le_max_right _ _)
  rw [synchronize]
  rcases collect_cases federate m d with
    ⟨pairs, s, wire, hlength, hpairs, hwrites, hcollect⟩
      | ⟨fault, d', hcollect, hfailed⟩
  · have hne : pairs ≠ [] := by
      rw [← List.length_pos_iff, hlength]
      exact hpos
    have hround := corrections_of_exchanges hne d.clock
    rw [hlength] at hround
    rw [bind_of_ok hcollect]
    exact .inl ⟨pairs, mean (estimated d.clock pairs), _, rfl, hlength, hpairs,
      hwrites, rfl, hround⟩
  · rw [bind_of_error hcollect]
    exact .inr ⟨fault, d', rfl, hfailed⟩

/-- **Synchronisation at the start is all or nothing.** It succeeds, if there is
room for its answers, exactly if the frames begin with a T1 and a T4 for each of
the exchanges. Then just these were received, every T1 was answered, and the clock
was corrected once, by the result. In every other case the offset is what it was,
the fault says how the first frame that was not waited for failed to be the one
that was, and every T1 that came where one was due was answered. -/
theorem synchronizes_all_or_nothing (federate : FederateId) (n : UInt16)
    (d : Dialogue (Socket κ)) :
    let m := max n.toNat 1
    let (result, d') := synchronize federate n d
    (∀ correction, result = .ok correction → ∃ pairs,
      Succeeded federate m d pairs correction d') ∧
    (∀ fault, result = .error fault → Failed federate m d fault d') ∧
    (d.link.wire.HasRoom (3 * m) →
      (result.isOk = true ↔ ∃ pairs rest,
        pairs.length = m ∧ Exchanges d.link.source pairs rest)) := by
  intro m
  rcases synchronize_cases federate n d with
    ⟨pairs, correction, d', hresult, hsucceeded⟩
      | ⟨fault, d', hresult, hfailed⟩ <;> rw [hresult]
  · refine ⟨?_, fun fault h => (by cases h), fun _ => iff_of_true rfl ?_⟩
    · rintro _ ⟨⟩
      exact ⟨pairs, hsucceeded⟩
    · exact ⟨pairs, _, hsucceeded.length, hsucceeded.received⟩
  · refine ⟨fun correction h => (by cases h), ?_,
      fun hroom => iff_of_false Bool.false_ne_true ?_⟩
    · rintro _ ⟨⟩
      exact hfailed
    · rintro ⟨pairs, rest, hlength, hpairs⟩
      obtain ⟨asked, hshort, -⟩ := hfailed.short hroom
      have hmany : pairs.length = max n.toNat 1 := hlength
      rw [← hmany] at hshort
      exact hpairs.not_fallsShort hshort

/-- A dialogue in which these frames come, by a clock that stands still. -/
def hearing (frames : List Frame) : Dialogue (Socket FrameStream) where
  link := { source := ⟨frames, .io .endOfInput⟩ }
  clock := { readings := fun _ => .epoch }

/-- A dialogue in which one exchange comes, and something else after it. -/
def hearingExchange : Dialogue (Socket FrameStream) :=
  hearing [.clockSyncT1 ⟨12, by decide⟩, .clockSyncT4 ⟨43, by decide⟩, .ack]

/-- A dialogue that breaks off in the first exchange. -/
def hearingHalf : Dialogue (Socket FrameStream) :=
  hearing [.clockSyncT1 ⟨12, by decide⟩]

/-- If one exchange is asked for, the clock is corrected in the first dialogue;
in the second it is not, though its T1 is answered. -/
theorem synchronizes_one_or_none :
    let complete := (synchronize ⟨7⟩ 1 hearingExchange).2
    let cut := (synchronize ⟨7⟩ 1 hearingHalf).2
    (∃ pairs rest,
      pairs.length = 1 ∧ Exchanges hearingExchange.link.source pairs rest) ∧
    complete.link.source.frames = [.ack] ∧ complete.clock.offset = ⟨27, by decide⟩ ∧
    cut.clock.offset = .zero ∧
    hearingHalf.link.wire.Writes (answers ⟨7⟩ 1) cut.link.wire := by
  intro complete cut
  have hall := synchronizes_all_or_nothing ⟨7⟩ 1 hearingExchange
  obtain ⟨pairs, hsucceeded⟩ :
      ∃ pairs, Succeeded ⟨7⟩ 1 hearingExchange pairs ⟨27, by decide⟩ complete :=
    hall.1 _ rfl
  have hfailed :
      Failed ⟨7⟩ 1 hearingHalf
        (.connectionLost "coordinator" (FrameError.io .endOfInput).message) cut :=
    (synchronizes_all_or_nothing ⟨7⟩ 1 hearingHalf).2.1 _ rfl
  refine ⟨(hall.2.2 nofun).mp rfl, rfl, hsucceeded.offset.trans (by decide),
    hfailed.offset, ?_⟩
  obtain ⟨asked, hshort, hwrites⟩ := hfailed.short nofun
  cases hshort with
  | atT1 hbreaks => exact absurd rfl (hbreaks.next_ne _)
  | atT4 => exact hwrites
  | later hT1 hT4 =>
    -- nothing comes after the T1
    cases hT1
    cases hT4

/-- A T1 that comes in the place of a T4 is received, but it is not answered. -/
theorem second_T1_unanswered :
    let d := hearing [.clockSyncT1 .epoch, .clockSyncT1 .epoch]
    let (result, d') := synchronize ⟨7⟩ 1 d
    result = .error
      (.protocol "coordinator" "expected clock sync T4, got ClockSyncT1") ∧
    d'.link.source.frames = [] ∧
    ¬ d.link.wire.Writes (answers ⟨7⟩ 2) d'.link.wire := by
  refine ⟨rfl, rfl, ?_⟩
  rintro ⟨_, ⟨blocks, hblocks, rfl⟩, hwritten⟩
  -- one answer is written, which is three bytes, and two would take six
  cases hblocks with
  | cons hfirst hrest =>
    cases hrest with
    | cons hsecond hnil =>
      cases hnil
      have hsize := congrArg ByteArray.size hwritten
      rw [Bytes.concat_cons, Bytes.concat_cons, Bytes.concat_nil,
        ByteArray.append_empty, ByteArray.size_append, ByteArray.size_append,
        Wire.size_of_answer hfirst, Wire.size_of_answer hsecond] at hsize
      exact absurd hsize (by decide)

end ClockSync

end Federation
