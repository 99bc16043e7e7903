/-
Federation/Proofs/Rounds.lean

A row of events of clock synchronisation, and the corrections that come of it.

T1s, answers and T4s may come in any order. They are put on record here as they
come (`SyncRecord`), each with what the clock showed, the estimate that it
completed, and the correction that was made. A round keeps much less: the last
T1 as long as nothing has come of it, the last answer to it, and the estimates
that no correction has been made of. That this is enough is an invariant
(`SyncRound.Recounts`), which every event keeps (`recounts_observe`), and so it
holds after any row of them.

The main result is `rounds_count_complete_exchanges`: which T4s contribute an
estimate is said by the record alone (`Contributes`), every so many of them make
a correction, and nothing else changes the offset.

Design: of the estimates that are on record, those that the round does not keep
are of rounds that are complete, so their number is a multiple. Rows are taken
apart at their right end, as that is where a record is looked at.
-/
import Mathlib
import Federation.Output
import Federation.Proofs.Accuracy

namespace Federation

open ClockSync

@[simp] theorem inTurn_concat {α β σ : Type} (f : α → σ → β × σ) (as : List α)
    (a : α) (s : σ) :
    inTurn f (as ++ [a]) s
      = ((inTurn f as s).1 ++ [(f a (inTurn f as s).2).1],
        (f a (inTurn f as s).2).2) := by
  induction as generalizing s with
  | nil => rfl
  | cons b as ih =>
    rw [List.cons_append, inTurn_cons, ih, inTurn_cons, List.cons_append]

/-! ### Events on record -/

/-- An event of clock synchronisation. -/
inductive SyncEvent where
  | t1 (time : Instant)
  /-- The answer to a T1 has left. -/
  | answer
  | t4 (time : Instant)
deriving DecidableEq

/-- An event on record. -/
structure SyncRecord where
  event : SyncEvent
  /-- What the clock showed. -/
  now : Instant
  /-- The estimate that was completed. -/
  sample : Option Interval := none
  /-- The correction that was made. -/
  correction : Option Interval := none
deriving DecidableEq

/-- Puts an event on record. -/
def SyncState.observe (e : SyncEvent) (s : SyncState) : SyncRecord × SyncState :=
  match e with
  | .t1 time => ({ event := e, now := s.clock.now }, s.onT1 time)
  | .answer => ({ event := e, now := s.clock.now }, s.onAnswer)
  | .t4 time =>
    let (s', correction) := s.onT4 time
    ({ event := e, now := s.clock.now, sample := s.round.sample? time, correction },
      s')

namespace SyncRecord

variable {records : List SyncRecord} {r : SyncRecord} {t1 t2 t3 : Instant}

/-- Whether the last event but for answers was a T1 that told `t1`, and came at
`t2`. -/
def Asked (records : List SyncRecord) (t1 t2 : Instant) : Prop :=
  ∃ r, (records.filter (·.event ≠ .answer)).getLast? = some r ∧
    r.event = .t1 t1 ∧ r.now = t2

/-- Whether the last event was an answer, which left at `t3`. -/
def Answered (records : List SyncRecord) (t3 : Instant) : Prop :=
  ∃ r, records.getLast? = some r ∧ r.event = .answer ∧ r.now = t3

/-- The estimate that an event contributes, by what is on record before it: only
a T4 contributes one, if of all T1s and T4s the last one was a T1, and an answer
has left since. -/
inductive Contributes (records : List SyncRecord) : SyncEvent → Interval → Prop
  | t4 {t1 t2 t3 : Instant} (t4 : Instant) (asked : Asked records t1 t2)
      (answered : Answered records t3) :
      Contributes records (.t4 t4) (estimate t1 t2 t3 t4)

@[simp] theorem not_asked_nil (t1 t2 : Instant) : ¬ Asked [] t1 t2 := by
  rintro ⟨r, hlast, -⟩
  cases hlast

/-- An answer leaves it as it is what was asked. -/
theorem asked_concat_answer (h : r.event = .answer) :
    Asked (records ++ [r]) t1 t2 ↔ Asked records t1 t2 := by
  unfold Asked
  rw [List.filter_append, List.filter_cons_of_neg (by simpa using h),
    List.filter_nil, List.append_nil]

theorem asked_concat (h : r.event ≠ .answer) :
    Asked (records ++ [r]) t1 t2 ↔ r.event = .t1 t1 ∧ r.now = t2 := by
  unfold Asked
  rw [List.filter_append, List.filter_cons_of_pos (by simpa using h),
    List.filter_nil, List.getLast?_concat]
  simp

theorem answered_concat :
    Answered (records ++ [r]) t3 ↔ r.event = .answer ∧ r.now = t3 := by
  unfold Answered
  rw [List.getLast?_concat]
  simp

/-- The estimates on record. -/
def contributed (records : List SyncRecord) : List Interval :=
  records.filterMap (·.sample)

@[simp] theorem contributed_concat (records : List SyncRecord) (r : SyncRecord) :
    contributed (records ++ [r]) = contributed records ++ r.sample.toList := by
  rw [contributed, List.filterMap_append, contributed]
  cases h : r.sample <;> simp [h]

end SyncRecord

/-! ### What a round keeps of the record -/

namespace SyncRound

open SyncRecord

/-- A round that keeps of the record what there is to keep. -/
structure Recounts (m : Nat) (records : List SyncRecord) (r : SyncRound) :
    Prop where
  exchanges : r.exchanges = m
  asked : ∀ t1 t2, r.pending = some (t1, t2) ↔ Asked records t1 t2
  answered : r.pending.isSome = true →
    ∀ t3, r.answered = some t3 ↔ Answered records t3
  /-- All other estimates are of complete rounds. -/
  kept : ∃ done, contributed records = done ++ r.samples.reverse ∧ m ∣ done.length
  short : r.samples.length < m

variable {m : Nat} {records : List SyncRecord} {r : SyncRound} {t4 : Instant}
variable {sample : Interval}

theorem recounts_ofExchanges (n : UInt16) :
    Recounts (max n.toNat 1) [] (ofExchanges n) where
  exchanges := rfl
  asked t1 t2 := iff_of_false nofun (not_asked_nil t1 t2)
  answered := nofun
  kept := ⟨[], rfl, dvd_zero _⟩
  short := Nat.lt_of_lt_of_le Nat.zero_lt_one (Nat.le_max_right _ _)

/-- A T4 completes the exchange that is on record. -/
theorem Recounts.sample_iff (h : Recounts m records r) :
    r.sample? t4 = some sample ↔ Contributes records (.t4 t4) sample := by
  have hsample : r.sample? t4 = some sample ↔
      ∃ t1 t2 t3, r.pending = some (t1, t2) ∧ r.answered = some t3 ∧
        sample = estimate t1 t2 t3 t4 := by
    unfold sample?
    rcases r.pending with - | ⟨t1, t2⟩ <;> rcases r.answered with - | t3 <;>
      simp [eq_comm]
  rw [hsample]
  constructor
  · rintro ⟨t1, t2, t3, hpending, hanswered, rfl⟩
    exact .t4 t4 ((h.asked t1 t2).mp hpending)
      ((h.answered (by rw [hpending]; rfl) t3).mp hanswered)
  · intro hcontributes
    cases hcontributes with
    | t4 _ hasked hanswered =>
      have hpending := (h.asked _ _).mpr hasked
      exact ⟨_, _, _, hpending,
        (h.answered (by rw [hpending]; rfl) _).mpr hanswered, rfl⟩

theorem Recounts.onT1 (h : Recounts m records r) (t1 now : Instant) :
    Recounts m (records ++ [{ event := .t1 t1, now }]) (r.onT1 t1 now) where
  exchanges := h.exchanges
  asked t t' := by
    have hturn : ({ event := .t1 t1, now } : SyncRecord).event ≠ .answer := nofun
    rw [asked_concat hturn]
    simp [SyncRound.onT1]
  answered _ t3 := iff_of_false nofun fun hanswered => by
    cases (answered_concat.mp hanswered).1
  kept := by
    rw [contributed_concat, Option.toList_none, List.append_nil]
    exact h.kept
  short := h.short

theorem Recounts.onAnswer (h : Recounts m records r) (now : Instant) :
    Recounts m (records ++ [{ event := .answer, now }]) (r.onAnswer now) where
  exchanges := h.exchanges
  asked t1 t2 := by
    rw [asked_concat_answer rfl]
    exact h.asked t1 t2
  answered _ t3 := by
    rw [answered_concat]
    simp [SyncRound.onAnswer]
  kept := by
    rw [contributed_concat, Option.toList_none, List.append_nil]
    exact h.kept
  short := h.short

/-- What a T4 that completes an exchange comes to: if the estimates are a
multiple now, the correction is made of the last ones, and otherwise they are
kept. -/
theorem Recounts.onT4_some (h : Recounts m records r)
    (hsample : r.sample? t4 = some sample) :
    let all := contributed records ++ [sample]
    (∃ correction, r.onT4 t4
      = ({ r.closed with samples := [] }, some correction) ∧ m ∣ all.length ∧
      correction = mean (all.rtake m).reverse ∧ (all.rtake m).length = m) ∨
    (r.onT4 t4 = ({ r.closed with samples := sample :: r.samples }, none) ∧
      ¬ m ∣ all.length ∧ r.samples.length + 1 < m) := by
  intro all
  obtain ⟨done, hdone, hdvd⟩ := h.kept
  have hall : all = done ++ (sample :: r.samples).reverse := by
    rw [List.reverse_cons, ← List.append_assoc, ← hdone]
  have hlength : all.length = done.length + (r.samples.length + 1) := by
    rw [hall, List.length_append, List.length_reverse, List.length_cons]
  have hshort := h.short
  rcases r.onT4_cases t4 with
    ⟨hnone, -⟩ | ⟨_, hsome, hmore, hresult⟩ | ⟨_, hsome, hfull, hresult⟩
  · rw [hsample] at hnone
    cases hnone
  · obtain rfl := Option.some.inj (hsample.symm.trans hsome)
    rw [h.exchanges] at hmore
    -- what is done is a multiple, and what is kept is less than a round
    refine .inr ⟨hresult, fun hmultiple => ?_, hmore⟩
    rw [hlength, Nat.dvd_add_right hdvd] at hmultiple
    exact absurd (Nat.le_of_dvd (Nat.succ_pos _) hmultiple) (by omega)
  · obtain rfl := Option.some.inj (hsample.symm.trans hsome)
    rw [h.exchanges] at hfull
    -- the round is complete, and what it keeps are the last estimates on record
    have hm : (sample :: r.samples).length = m := by
      rw [List.length_cons]
      omega
    have hlast : all.rtake m = (sample :: r.samples).reverse := by
      rw [List.rtake, hlength, hall]
      exact List.drop_left' (by rw [← hm, List.length_cons]; omega)
    refine .inl ⟨_, hresult, ?_, ?_, ?_⟩
    · rw [hlength, ← List.length_cons, hm]
      exact dvd_add hdvd dvd_rfl
    · rw [hlast, List.reverse_reverse]
    · rw [hlast, List.length_reverse, hm]

theorem Recounts.onT4 (h : Recounts m records r) (now : Instant)
    (correction : Option Interval) :
    Recounts m
      (records ++ [{ event := .t4 t4, now, sample := r.sample? t4, correction }])
      (r.onT4 t4).1 := by
  have hpos : 0 < m := Nat.zero_lt_of_lt h.short
  -- a T4 takes what was asked in any case, so all that is to be seen to are the
  -- estimates
  have hclosed : (r.onT4 t4).1.exchanges = m ∧ (r.onT4 t4).1.pending = none := by
    rcases r.onT4_cases t4 with ⟨-, hresult⟩ | ⟨_, -, -, hresult⟩ |
      ⟨_, -, -, hresult⟩ <;> rw [hresult] <;>
      exact ⟨h.exchanges, rfl⟩
  have hsamples : (∃ done, contributed records ++ (r.sample? t4).toList
      = done ++ (r.onT4 t4).1.samples.reverse ∧ m ∣ done.length) ∧
        (r.onT4 t4).1.samples.length < m := by
    obtain ⟨done, hdone, hdvd⟩ := h.kept
    rcases hsample : r.sample? t4 with - | sample
    · rcases r.onT4_cases t4 with ⟨-, hresult⟩ | ⟨_, hsome, -, -⟩ | ⟨_, hsome, -, -⟩
      · rw [hresult, Option.toList_none, List.append_nil]
        exact ⟨⟨done, hdone, hdvd⟩, h.short⟩
      · rw [hsample] at hsome
        cases hsome
      · rw [hsample] at hsome
        cases hsome
    · rw [Option.toList_some]
      -- the T4 completes the round, which starts afresh, or one more estimate
      -- is kept
      rcases h.onT4_some hsample with
        ⟨_, hresult, hmultiple, -, -⟩ | ⟨hresult, -, hmore⟩
      · rw [hresult]
        exact ⟨⟨_, (List.append_nil _).symm, hmultiple⟩, hpos⟩
      · rw [hresult, hdone]
        exact ⟨⟨done, by simp, hdvd⟩, hmore⟩
  refine ⟨hclosed.1, fun t1 t2 => ?_, fun hsome => ?_, ?_, hsamples.2⟩
  · have hturn : ({ event := .t4 t4, now, sample := r.sample? t4, correction } :
        SyncRecord).event ≠ .answer := nofun
    rw [asked_concat hturn, hclosed.2]
    exact iff_of_false nofun fun hasked => by cases hasked.1
  · rw [hclosed.2] at hsome
    cases hsome
  · rw [contributed_concat]
    exact hsamples.1

end SyncRound

/-! ### What comes of the events -/

namespace SyncRecord

/-- The last `m` estimates on record, or all if there are fewer. -/
def latest (m : Nat) (records : List SyncRecord) : List Interval :=
  (contributed records).rtake m

/-- Whether an event comes to what the record before it makes of it, in rounds
of `m` exchanges. -/
structure Counts (m : Nat) (earlier : List SyncRecord) (r : SyncRecord) : Prop where
  sample : ∀ x, r.sample = some x ↔ Contributes earlier r.event x
  /-- A correction is made of every `m`-th estimate, and it is the truncated
  mean of the last `m` of them. -/
  correction : ∀ d, r.correction = some d ↔
    r.sample.isSome = true ∧ m ∣ (contributed (earlier ++ [r])).length ∧
      d.ns = (total (latest m (earlier ++ [r]))).tdiv m
  /-- It lies between two of these estimates. -/
  between : ∀ d, r.correction = some d →
    (∃ s ∈ latest m (earlier ++ [r]), s ≤ d) ∧
      ∃ s ∈ latest m (earlier ++ [r]), d ≤ s
  /-- Their sum fits in 128 bits. -/
  room : |total (latest m (earlier ++ [r]))| < 2 ^ 127

variable {m : Nat} {records : List SyncRecord} {r : SyncRecord}

theorem abs_total_latest_lt (hm : m < 65536) (records : List SyncRecord) :
    |total (latest m records)| < 2 ^ 127 := by
  have hlength : (latest m records).length ≤ m := by
    rw [latest, List.rtake, List.length_drop]
    omega
  have hlo := mul_length_le_total fun s (_ : s ∈ latest m records) => s.inRange.1
  have hhi := total_le_mul_length fun s (_ : s ∈ latest m records) => s.inRange.2
  rw [abs_lt]
  omega

/-- A mean of some intervals lies between two of them. -/
theorem exists_between_mean {samples : List Interval} (hne : samples ≠ []) :
    (∃ s ∈ samples, s ≤ mean samples) ∧ ∃ s ∈ samples, mean samples ≤ s := by
  constructor
  · by_contra! hall
    have hlt : (mean samples).ns + 1 ≤ (mean samples).ns :=
      le_mean hne fun s hs => Int.not_le.mp (hall s hs)
    omega
  · by_contra! hall
    have hlt : (mean samples).ns ≤ (mean samples).ns - 1 :=
      mean_le hne fun s hs => Int.le_sub_one_of_lt (Int.not_le.mp (hall s hs))
    omega

/-- Without a correction there is none to be made. -/
theorem counts_of_no_correction (hm : m < 65536)
    (hsample : ∀ x, r.sample = some x ↔ Contributes records r.event x)
    (hcorrection : r.correction = none)
    (h : r.sample.isSome = true → ¬ m ∣ (contributed (records ++ [r])).length) :
    Counts m records r where
  sample := hsample
  correction d := by
    rw [hcorrection]
    exact iff_of_false nofun fun hd => h hd.1 hd.2.1
  between d hd := by
    rw [hcorrection] at hd
    cases hd
  room := abs_total_latest_lt hm _

/-- The mean of as many estimates as make a round is its correction. -/
theorem counts_of_mean (hm : m < 65536) (hpos : 0 < m)
    (hsample : ∀ x, r.sample = some x ↔ Contributes records r.event x)
    (hsome : r.sample.isSome = true)
    (hdvd : m ∣ (contributed (records ++ [r])).length)
    (hlength : (latest m (records ++ [r])).length = m)
    (hcorrection : r.correction = some (mean (latest m (records ++ [r])).reverse)) :
    Counts m records r := by
  have hne : (latest m (records ++ [r])).reverse ≠ [] := by
    rw [← List.length_pos_iff, List.length_reverse, hlength]
    exact hpos
  have hmean : (mean (latest m (records ++ [r])).reverse).ns
      = (total (latest m (records ++ [r]))).tdiv m := by
    rw [ns_mean hne, total_reverse, List.length_reverse, hlength]
  refine ⟨hsample, fun d => ?_, fun d hd => ?_, abs_total_latest_lt hm _⟩
  · rw [hcorrection, Option.some.injEq, Interval.ext_iff, hmean, eq_comm]
    exact ⟨fun hd => ⟨hsome, hdvd, hd⟩, fun hd => hd.2.2⟩
  · rw [hcorrection] at hd
    cases hd
    have hbetween := exists_between_mean hne
    simp only [List.mem_reverse] at hbetween
    exact hbetween

end SyncRecord

namespace SyncState

open SyncRecord SyncRound

variable {m : Nat} {records : List SyncRecord} {s : SyncState}

/-- The clock after what came of a T4. -/
def corrected (clock : Clock) (correction : Option Interval) : Clock :=
  correction.elim clock fun d => (clock.adjust d).1

theorem onT4_eq (s : SyncState) (t4 : Instant) :
    s.onT4 t4 = (⟨(s.round.onT4 t4).1, corrected s.clock (s.round.onT4 t4).2⟩,
      (s.round.onT4 t4).2) := by
  rw [onT4]
  rcases s.round.onT4 t4 with ⟨round, - | correction⟩ <;> rfl

/-- Each event keeps what a round keeps. -/
theorem recounts_observe (h : s.round.Recounts m records) (e : SyncEvent) :
    (observe e s).2.round.Recounts m (records ++ [(observe e s).1]) := by
  cases e with
  | t1 time => exact h.onT1 time s.clock.now
  | answer => exact h.onAnswer s.clock.now
  | t4 time =>
    rw [observe, onT4_eq]
    exact h.onT4 _ _

/-- Each event comes to what the record makes of it. -/
theorem counts_observe (hm : m < 65536) (h : s.round.Recounts m records)
    (e : SyncEvent) :
    Counts m records (observe e s).1 := by
  cases e with
  -- neither a T1 nor an answer completes an exchange
  | t1 time =>
    have hnone (x : Interval) : ¬ Contributes records (.t1 time) x := nofun
    exact counts_of_no_correction hm
      (fun x => iff_of_false nofun (hnone x)) rfl nofun
  | answer =>
    have hnone (x : Interval) : ¬ Contributes records .answer x := nofun
    exact counts_of_no_correction hm
      (fun x => iff_of_false nofun (hnone x)) rfl nofun
  | t4 time =>
    have hevent : (observe (.t4 time) s).1 =
        { event := .t4 time, now := s.clock.now, sample := s.round.sample? time
          correction := (s.round.onT4 time).2 } := by
      rw [observe, onT4_eq]
    rw [hevent]
    have hsample (x : Interval) :
        s.round.sample? time = some x ↔ Contributes records (.t4 time) x :=
          h.sample_iff
    rcases hcompleted : s.round.sample? time with - | sample <;>
      rw [hcompleted] at hsample
    · have hcorrection : (s.round.onT4 time).2 = none := by
        rcases s.round.onT4_cases time with
          ⟨-, hresult⟩ | ⟨_, hsome, -⟩ | ⟨_, hsome, -⟩
        · rw [hresult]
        · cases hcompleted.symm.trans hsome
        · cases hcompleted.symm.trans hsome
      exact counts_of_no_correction hm hsample hcorrection nofun
    -- the estimates on record with this one are the ones that the round counts
    · rcases h.onT4_some hcompleted with
        ⟨d, hresult, hdvd, rfl, hlength⟩ | ⟨hresult, hndvd, -⟩
      · have hpos : 0 < m := Nat.zero_lt_of_lt h.short
        apply counts_of_mean hm hpos hsample rfl
        · rwa [contributed_concat]
        · rwa [latest, contributed_concat]
        · rw [latest, contributed_concat, hresult]
          rfl
      · refine counts_of_no_correction hm hsample (by rw [hresult]) fun _ => ?_
        rwa [contributed_concat]

/-! ### Rows of events -/

/-- After a row of events the round keeps what there is to keep, and every event
so far has come to what the record before it made of it. -/
theorem recounts_inTurn (hm : m < 65536) (h : s.round.Recounts m [])
    (events : List SyncEvent) :
    (inTurn observe events s).2.round.Recounts m (inTurn observe events s).1 ∧
    ∀ earlier r,
      earlier ++ [r] <+: (inTurn observe events s).1 → Counts m earlier r := by
  induction events using List.reverseRecOn with
  | nil =>
    refine ⟨h, fun earlier r hprefix => ?_⟩
    have hempty := List.prefix_nil.mp hprefix
    simp at hempty
  | append_singleton events e ih =>
    obtain ⟨hrecounts, hcounts⟩ := ih
    rw [inTurn_concat]
    refine ⟨recounts_observe hrecounts e, fun earlier r hprefix => ?_⟩
    rcases List.prefix_concat_iff.mp hprefix with hlast | hbefore
    · obtain ⟨rfl, hr⟩ := List.append_inj' hlast rfl
      cases hr
      exact counts_observe hm hrecounts e
    · exact hcounts earlier r hbefore

/-- The offset changes by the corrections that are made, and by nothing else. -/
theorem offset_observe (e : SyncEvent) (s : SyncState) :
    (observe e s).2.clock.offset
      = (observe e s).1.correction.toList.foldl
        (fun offset d => (offset.adjust d).1) s.clock.offset := by
  cases e with
  | t1 time => rfl
  | answer => rfl
  | t4 time =>
    rw [observe, onT4_eq]
    rcases (s.round.onT4 time).2 with - | d <;> rfl

theorem offset_inTurn (events : List SyncEvent) (s : SyncState) :
    (inTurn observe events s).2.clock.offset
      = ((inTurn observe events s).1.filterMap (·.correction)).foldl
          (fun offset d => (offset.adjust d).1) s.clock.offset := by
  induction events generalizing s with
  | nil => rfl
  | cons e events ih =>
    rw [inTurn_cons, ih, offset_observe, ← List.foldl_append]
    congr 1
    rcases hcorrection : (observe e s).1.correction with - | d <;>
      simp [hcorrection]

theorem event_inTurn (events : List SyncEvent) (s : SyncState) :
    (inTurn observe events s).1.map (·.event) = events := by
  have hevent (e : SyncEvent) (s : SyncState) : (observe e s).1.event = e := by
    cases e <;> rfl
  induction events generalizing s with
  | nil => rfl
  | cons e events ih => rw [inTurn_cons, List.map_cons, hevent, ih]

/-- **A round counts the complete exchanges.** Let T1s, answers and T4s come in
any order, over as many rounds as they make. A T4 contributes an estimate exactly
if of the T1s and T4s before it the last one was a T1, and an answer has left
since. Every so many-th estimate makes a correction, the truncated mean of as many
of the last ones, and nothing else does. The offset of the clock is what these
corrections make of it, each applied once and in order. -/
theorem rounds_count_complete_exchanges (n : UInt16) (clock : Clock)
    (events : List SyncEvent) :
    let m := max n.toNat 1
    let (records, s) := inTurn observe events ⟨.ofExchanges n, clock⟩
    records.map (·.event) = events ∧
    (∀ earlier r, earlier ++ [r] <+: records → Counts m earlier r) ∧
    s.clock.offset
      = (records.filterMap (·.correction)).foldl
        (fun offset d => (offset.adjust d).1) clock.offset := by
  intro m
  have hm : m < 65536 := max_lt n.toNat_lt (by decide)
  refine ⟨event_inTurn _ _, ?_, offset_inTurn _ _⟩
  exact (recounts_inTurn hm (recounts_ofExchanges n) events).2

/-- Events in disorder: a T4 and an answer before any T1, a T1 without an
answer, two T1s in a row, two answers to the second, and an answer after the T4.
-/
def disorder : List SyncEvent :=
  [.t4 ⟨15, by decide⟩, .answer, .t1 ⟨16, by decide⟩, .t4 ⟨17, by decide⟩,
    .t1 ⟨20, by decide⟩,
   .t1 ⟨30, by decide⟩, .answer, .answer, .t4 ⟨41, by decide⟩, .answer,
     .t1 ⟨50, by decide⟩, .answer]

/-- The disorder makes one estimate, and with the next one the round is complete. -/
theorem rounds_count_of_disorder :
    let start : SyncState := ⟨.ofExchanges 2, { readings := fun _ => .epoch }⟩
    let (earlier, s) := inTurn observe disorder start
    contributed earlier = [⟨35, by decide⟩] ∧
    (observe (.t4 ⟨60, by decide⟩) s).1.correction = some ⟨45, by decide⟩ ∧
    (observe (.t4 ⟨60, by decide⟩) s).2.clock.offset = ⟨45, by decide⟩ := by
  intro start
  have hrow :=
    rounds_count_complete_exchanges 2 start.clock
      (disorder ++ [.t4 ⟨60, by decide⟩])
  rw [inTurn_concat] at hrow
  obtain ⟨-, hcounts, hoffset⟩ := hrow
  refine ⟨by decide, ?_, hoffset.trans (by decide)⟩
  exact ((hcounts _ _ List.prefix_rfl).correction _).mpr
    ⟨by decide, by decide, by decide⟩

end SyncState

end Federation
