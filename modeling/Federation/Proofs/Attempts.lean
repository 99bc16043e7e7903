/-
Federation/Proofs/Attempts.lean

How often something is tried, and how long it is waited in between.

A run of a retry policy makes its attempts one after another: the first success
ends it, and so does the failure of the last attempt that the policy allows.
Which of the two comes first is said by the position of the first success
(`firstSuccess`), which is infinite if there is none; what a run comes to is
read off it (`run_cases`, by induction over the attempts that are left).

The pauses are looked at as they are, powers of two up to the sixteenth that are
cut off at the longest allowed (`nanos_backoff`), and as they come: `Goes` says
what is done in a run, in order, by a count of 32 bits that is never the
greatest when it is increased.
-/
import Mathlib
import Federation.Retry

namespace Federation

/-! ### Pauses -/

namespace Duration

variable {d e : Duration}

theorem nanos_saturatingMul (d : Duration) (n : Nat) :
    (d.saturatingMul n).nanos = min (d.nanos * n) maxNanos := rfl

theorem nanos_shorter (d e : Duration) :
    (d.shorter e).nanos = min d.nanos e.nanos := by
  unfold shorter
  split
  · next h => exact (Nat.min_eq_left h).symm
  · next h => exact (Nat.min_eq_right (Nat.le_of_not_le h)).symm

end Duration

namespace RetryPolicy

variable {α : Type} {policy : RetryPolicy} {what : String}
  {attempt : Nat → Except IoError α}

/-- The pause is the exact product, cut off at the longest allowed. The greatest
duration plays no part in it, as the longest allowed is a duration itself. -/
theorem nanos_backoff (policy : RetryPolicy) (retry : Nat) :
    (policy.backoff retry).nanos
      = min (policy.initialBackoff.nanos * 2 ^ min retry 16)
        policy.maxBackoff.nanos := by
  have hmax : policy.maxBackoff.nanos ≤ Duration.maxNanos :=
    policy.maxBackoff.le_max
  rw [backoff, Duration.nanos_shorter, Duration.nanos_saturatingMul, min_assoc,
    min_eq_right hmax]
  rfl

theorem nanos_backoff_le (policy : RetryPolicy) (retry : Nat) :
    (policy.backoff retry).nanos ≤ policy.maxBackoff.nanos := by
  rw [nanos_backoff]
  exact min_le_right _ _

theorem nanos_backoff_mono (policy : RetryPolicy) :
    Monotone fun retry => (policy.backoff retry).nanos := by
  intro i j hij
  dsimp only
  rw [nanos_backoff, nanos_backoff]
  gcongr
  exact one_le_two

/-- The pauses before so many retries. -/
def pausesOf (policy : RetryPolicy) (count : Nat) : List Duration :=
  (List.range count).map policy.backoff

/-! ### What a run comes to -/

theorem attempts_pos (policy : RetryPolicy) : 0 < policy.attempts :=
  Nat.lt_of_lt_of_le Nat.zero_lt_one (Nat.le_max_right _ _)

theorem attempts_lt (policy : RetryPolicy) : policy.attempts < UInt32.size :=
  max_lt policy.maxAttempts.toNat_lt (by decide)

/-- The position of the first attempt that succeeds, counted from one; infinite
if none does. -/
noncomputable def firstSuccess (attempt : Nat → Except IoError α) : ℕ∞ :=
  ⨅ n, ⨅ _ : (attempt n).isOk = true, ((n + 1 : ℕ) : ℕ∞)

theorem lt_firstSuccess_iff {n : Nat} :
    (n : ℕ∞) < firstSuccess attempt ↔ ∀ m < n, (attempt m).isOk = false := by
  have hle : (n : ℕ∞) < firstSuccess attempt ↔
      ((n + 1 : ℕ) : ℕ∞) ≤ firstSuccess attempt := by
    rw [Nat.cast_add, Nat.cast_one, ENat.add_one_le_iff (ENat.natCast_ne_top n)]
  rw [hle, firstSuccess]
  simp only [le_iInf_iff, Nat.cast_le, Nat.add_le_add_iff_right]
  constructor
  · intro h m hm
    by_contra hok
    exact absurd (h m (Bool.eq_true_of_not_eq_false hok)) (Nat.not_le.mpr hm)
  · intro h m hok
    by_contra hm
    rw [h m (Nat.lt_of_not_le hm)] at hok
    cases hok

theorem firstSuccess_eq {n : Nat} (h : (attempt n).isOk = true)
    (hbefore : ∀ m < n, (attempt m).isOk = false) :
    firstSuccess attempt = (n + 1 : ℕ) := by
  refine le_antisymm (iInf₂_le n h) ?_
  rw [Nat.cast_add, Nat.cast_one, ENat.add_one_le_iff (ENat.natCast_ne_top n)]
  exact lt_firstSuccess_iff.mpr hbefore

/-- The attempts from number `n` on come to the first success among them, if
there is one with no more than `left` between. -/
theorem runFrom_cases (policy : RetryPolicy) (what : String)
    (attempt : Nat → Except IoError α) (left n : Nat) :
    (∃ m a, m ≤ left ∧ (∀ i < m, (attempt (n + i)).isOk = false) ∧
      attempt (n + m) = .ok a ∧
      policy.runFrom what attempt left n
        = ⟨n + m + 1, (List.range m).map fun i => policy.backoff (n + i), .ok a⟩) ∨
    (∃ e, (∀ i ≤ left, (attempt (n + i)).isOk = false) ∧
      attempt (n + left) = .error e ∧
      policy.runFrom what attempt left n
        = ⟨n + left + 1, (List.range left).map fun i => policy.backoff (n + i),
            .error (.unreachable what policy.attempts e)⟩) := by
  induction left generalizing n with
  | zero =>
    rcases h : attempt n with e | a
    · refine .inr ⟨e, fun i hi => ?_, rfl, runFrom_zero_of_error h⟩
      rw [Nat.le_zero.mp hi, Nat.add_zero, h]
      rfl
    · exact .inl ⟨0, a, le_rfl, nofun, h, runFrom_of_ok h⟩
  | succ left ih =>
    rcases h : attempt n with e | a
    · rw [runFrom_succ_of_error h]
      -- what the other attempts come to, counted from here
      have hshift (i : Nat) : n + 1 + i = n + (i + 1) := by omega
      have hfailed {bound : Nat}
          (hrest : ∀ i < bound, (attempt (n + 1 + i)).isOk = false) :
          ∀ i < bound + 1, (attempt (n + i)).isOk = false := by
        rintro (- | i) hi
        · rw [Nat.add_zero, h]
          rfl
        · rw [← hshift]
          exact hrest i (Nat.lt_of_succ_lt_succ hi)
      have hpauses (count : Nat) :
          policy.backoff n
              :: (List.range count).map (fun i => policy.backoff (n + 1 + i))
            = (List.range (count + 1)).map fun i => policy.backoff (n + i) := by
        rw [List.range_succ_eq_map, List.map_cons, List.map_map, Nat.add_zero]
        exact congrArg _ (List.map_congr_left fun i _ => by rw [hshift]; rfl)
      -- the success among the others is one further on from here, if there is one
      rcases ih (n + 1) with
        ⟨m, a, hm, hbefore, hok, hrun⟩ | ⟨e', hall, hlast, hrun⟩
      · rw [hshift] at hok hrun
        refine .inl ⟨m + 1, a, Nat.succ_le_succ hm, hfailed hbefore, hok, ?_⟩
        rw [hrun, ← hpauses]
      · rw [hshift] at hlast hrun
        have hbefore := hfailed fun i hi => hall i (Nat.le_of_lt_succ hi)
        refine .inr ⟨e', fun i hi => hbefore i (Nat.lt_succ_of_le hi), hlast, ?_⟩
        rw [hrun, ← hpauses]
    · exact .inl ⟨0, a, Nat.zero_le _, nofun, h, runFrom_of_ok h⟩

/-- A run ends with the first success, or when as many attempts as are allowed
have failed. -/
theorem run_cases (policy : RetryPolicy) (what : String)
    (attempt : Nat → Except IoError α) :
    (∃ m a, m < policy.attempts ∧ firstSuccess attempt = (m + 1 : ℕ) ∧
      attempt m = .ok a ∧
      policy.run what attempt = ⟨m + 1, policy.pausesOf m, .ok a⟩) ∨
    (∃ e, (policy.attempts : ℕ∞) < firstSuccess attempt ∧
      attempt (policy.attempts - 1) = .error e ∧ policy.run what attempt
        = ⟨policy.attempts, policy.pausesOf (policy.attempts - 1),
            .error (.unreachable what policy.attempts e)⟩) := by
  have hpos := policy.attempts_pos
  have hcases := policy.runFrom_cases what attempt (policy.attempts - 1) 0
  simp only [Nat.zero_add] at hcases
  rcases hcases with ⟨m, a, hm, hbefore, hok, hrun⟩ | ⟨e, hall, hlast, hrun⟩
  · exact .inl
      ⟨m, a, by omega, firstSuccess_eq (by rw [hok]; rfl) hbefore, hok, hrun⟩
  · refine .inr
      ⟨e, lt_firstSuccess_iff.mpr fun i hi => hall i (by omega), hlast, ?_⟩
    rw [Nat.sub_add_cancel hpos] at hrun
    exact hrun

/-! ### What is done in a run -/

/-- What is done in a run. -/
inductive Doing where
  /-- The attempt with this number is made, the first one being number nought. -/
  | attempt (n : Nat)
  | pause (length : Duration)
deriving DecidableEq

/-- The number of an attempt. -/
def Doing.attempt? : Doing → Option Nat
  | .attempt n => some n
  | .pause _ => none

/-- The length of a pause. -/
def Doing.pause? : Doing → Option Duration
  | .attempt _ => none
  | .pause length => some length

/-- What is done in a run from some attempt on, and how it ends. The attempts
are counted from one by a number of 32 bits, and between two of them there is
one pause. -/
inductive Goes (policy : RetryPolicy) (what : String)
    (attempt : Nat → Except IoError α) :
    UInt32 → List Doing → Except Fault α → Prop
  | success {count : UInt32} {n : Nat} {a : α} (hcount : count.toNat = n + 1)
      (h : attempt n = .ok a) :
      Goes policy what attempt count [.attempt n] (.ok a)
  | lastFailure {count : UInt32} {n : Nat} {e : IoError}
      (hcount : count.toNat = n + 1) (h : attempt n = .error e)
      (hlast : count.toNat = policy.attempts) :
      Goes policy what attempt count [.attempt n]
        (.error (.unreachable what policy.attempts e))
  | failure {count next : UInt32} {n : Nat} {e : IoError} {doings : List Doing}
      {result : Except Fault α} (hcount : count.toNat = n + 1)
      (h : attempt n = .error e) (hmore : count.toNat < policy.attempts)
      (hnext : next.toNat = count.toNat + 1)
      (hrest : Goes policy what attempt next doings result) :
      Goes policy what attempt count
        (.attempt n :: .pause (policy.backoff n) :: doings) result

/-- The attempts that are left go as they are reported. -/
theorem goes_runFrom (policy : RetryPolicy) (what : String)
    (attempt : Nat → Except IoError α) {left n : Nat}
    (hleft : n + left + 1 = policy.attempts) {count : UInt32}
    (hcount : count.toNat = n + 1) :
    let run := policy.runFrom what attempt left n
    ∃ doings, policy.Goes what attempt count doings run.result ∧
      doings.filterMap Doing.attempt? = List.range' n (run.attempts - n) ∧
      n ≤ run.attempts ∧
      doings.filterMap Doing.pause? = run.pauses := by
  induction left generalizing n count with
  | zero =>
    rcases h : attempt n with e | a
    · rw [runFrom_zero_of_error h]
      exact ⟨_, .lastFailure hcount h (by omega), by simp [Doing.attempt?],
        Nat.le_succ n, rfl⟩
    · rw [runFrom_of_ok h]
      exact ⟨_, .success hcount h, by simp [Doing.attempt?], Nat.le_succ n, rfl⟩
  | succ left ih =>
    rcases h : attempt n with e | a
    · rw [runFrom_succ_of_error h]
      -- the count has room for one more, as there are no more attempts than it
      -- can count
      have hroom : n + 2 < UInt32.size :=
        lt_of_le_of_lt (by omega) policy.attempts_lt
      have hnext : (UInt32.ofNat (n + 2)).toNat = n + 1 + 1 :=
        UInt32.toNat_ofNat_of_lt' hroom
      obtain ⟨doings, hgoes, hattempts, hle, hpauses⟩ := ih (by omega) hnext
      refine ⟨_, .failure hcount h (by omega) (by rw [hnext, hcount]) hgoes, ?_,
        Nat.le_of_succ_le hle, ?_⟩
      · simp only [List.filterMap_cons, Doing.attempt?]
        rw [hattempts, ← List.range'_succ]
        congr 1
        omega
      · simp only [List.filterMap_cons, Doing.pause?]
        rw [hpauses]
    · rw [runFrom_of_ok h]
      exact ⟨_, .success hcount h, by simp [Doing.attempt?], Nat.le_succ n, rfl⟩

/-- **Bounded retries.** Let a policy allow `a` attempts, and let the first
success be at position `k`, counted from one. Then `min k a` attempts are made, in
order, with one pause between any two and none after the last. The run ends with
the value of the success if `k ≤ a`, and else as unreachable, with the failure of
the last attempt. The pause number `i`, from nought, is the initial one times `2 ^
min i 16`, but no longer than the longest allowed, and the pauses do not get
shorter. -/
theorem retries_bounded (policy : RetryPolicy) (what : String)
    (attempt : Nat → Except IoError α) :
    let run := policy.run what attempt
    let a := max 1 policy.maxAttempts.toNat
    (run.attempts : ℕ∞) = min (firstSuccess attempt) a ∧
    (firstSuccess attempt ≤ a →
      ∃ value, attempt (run.attempts - 1) = .ok value ∧ run.result = .ok value) ∧
    (a < firstSuccess attempt → ∃ e, attempt (run.attempts - 1) = .error e ∧
      run.result = .error (.unreachable what a e)) ∧
    (∃ doings, policy.Goes what attempt 1 doings run.result ∧
      doings.filterMap Doing.attempt? = List.range run.attempts ∧
      doings.filterMap Doing.pause? = run.pauses) ∧
    run.pauses.length + 1 = run.attempts ∧
    (∀ i length, run.pauses[i]? = some length →
      length.nanos = min
        (policy.initialBackoff.nanos * 2 ^ min i 16) policy.maxBackoff.nanos ∧
      2 ^ min i 16 < UInt32.size) ∧
    run.pauses.Pairwise (·.nanos ≤ ·.nanos) ∧
    ∀ length ∈ run.pauses, length.nanos ≤ policy.maxBackoff.nanos := by
  intro run a
  have ha : policy.attempts = a := max_comm _ _
  have hpos := policy.attempts_pos
  -- the run ends with the first success, or with the last attempt
  have hrun : (∃ m, run.attempts = m + 1 ∧ run.pauses = policy.pausesOf m) ∧
      (run.attempts : ℕ∞) = min (firstSuccess attempt) a ∧
      (firstSuccess attempt ≤ a → ∃ value,
        attempt (run.attempts - 1) = .ok value ∧ run.result = .ok value) ∧
      (a < firstSuccess attempt → ∃ e, attempt (run.attempts - 1) = .error e ∧
        run.result = .error (.unreachable what a e)) := by
    rw [← ha]
    rcases policy.run_cases what attempt with
      ⟨m, value, hm, hfirst, hok, hrun⟩ | ⟨e, hnone, herror, hrun⟩
    · have hle : ((m + 1 : ℕ) : ℕ∞) ≤ policy.attempts := Nat.cast_le.mpr hm
      simp only [run, hrun, hfirst]
      exact ⟨⟨m, rfl, rfl⟩, (min_eq_left hle).symm, fun _ => ⟨value, hok, rfl⟩,
        fun hlt => absurd hle hlt.not_ge⟩
    · simp only [run, hrun]
      exact ⟨⟨policy.attempts - 1, (Nat.sub_add_cancel hpos).symm, rfl⟩,
        (min_eq_right hnone.le).symm,
        fun hle => absurd hle hnone.not_ge, fun _ => ⟨e, herror, rfl⟩⟩
  obtain ⟨⟨m, hattempts, hpauses⟩, hcount, hsuccess, hfailure⟩ := hrun
  -- the report, for a run that starts its count at one
  have hdoings : ∃ doings, policy.Goes what attempt 1 doings run.result ∧
      doings.filterMap Doing.attempt? = List.range run.attempts ∧
      doings.filterMap Doing.pause? = run.pauses := by
    have hleft : 0 + (policy.attempts - 1) + 1 = policy.attempts := by omega
    have hcount : (1 : UInt32).toNat = 0 + 1 := rfl
    obtain ⟨doings, hgoes, hmade, -, hpaused⟩ :=
      goes_runFrom policy what attempt hleft hcount
    exact ⟨doings, hgoes, hmade.trans List.range_eq_range'.symm, hpaused⟩
  refine ⟨hcount, hsuccess, hfailure, hdoings, ?_, ?_, ?_, ?_⟩
  · rw [hpauses, hattempts, pausesOf, List.length_map, List.length_range]
  · -- the doubled pause, and the number of 32 bits by which it is multiplied
    intro i length hi
    rw [hpauses, pausesOf, List.getElem?_map, Option.map_eq_some_iff] at hi
    obtain ⟨j, hj, rfl⟩ := hi
    obtain ⟨-, rfl⟩ := List.getElem?_eq_some_iff.mp hj
    rw [List.getElem_range]
    refine ⟨policy.nanos_backoff i,
      lt_of_le_of_lt (Nat.pow_le_pow_right Nat.two_pos (min_le_right i 16)) ?_⟩
    decide
  · rw [hpauses, pausesOf, List.pairwise_map]
    exact List.pairwise_lt_range.imp fun hlt => policy.nanos_backoff_mono hlt.le
  · intro length hlength
    rw [hpauses] at hlength
    obtain ⟨i, -, rfl⟩ := List.mem_map.mp hlength
    exact policy.nanos_backoff_le i

/-- A policy of four attempts, whose second pause is cut off. -/
def impatient : RetryPolicy :=
  { maxAttempts := 4, initialBackoff := .ofMillis 10, maxBackoff := .ofMillis 15 }

/-- What comes of it where the first two attempts fail. -/
def thirdTime : RetryRun Nat :=
  impatient.run "peer" fun n => if n < 2 then .error .refused else .ok n

theorem retries_bounded_of_thirdTime :
    thirdTime.attempts = 3 ∧ thirdTime.result = .ok 2 ∧
      thirdTime.pauses.map (·.nanos) = [10000000, 15000000] := by
  have hfirst : firstSuccess (fun n => if n < 2 then .error .refused
        else .ok n : Nat → Except IoError Nat) = (2 + 1 : ℕ) := by
    refine firstSuccess_eq rfl fun m hm => ?_
    rw [if_pos hm]
    rfl
  obtain ⟨hcount, hsuccess, -⟩ := retries_bounded impatient "peer"
    fun n => if n < 2 then .error .refused else (.ok n : Except IoError Nat)
  rw [hfirst] at hcount hsuccess
  have hattempts : thirdTime.attempts = 3 :=
    Nat.cast_injective (hcount.trans (by decide +kernel))
  obtain ⟨value, hvalue, hresult⟩ := hsuccess (by decide +kernel)
  refine ⟨hattempts, ?_, by decide⟩
  rw [show (impatient.run "peer" _).attempts = 3 from hattempts] at hvalue
  cases hvalue
  exact hresult

end RetryPolicy

end Federation
