/-
Federation/Proofs/Accuracy.lean

How good an estimate is, and the mean of some.

If the coordinator's clock is ahead by `x`, and its times take `p` to reach the
federate and the answer `q` to reach it, then

    t1 - t2 = x - p        t4 - t3 = x + q

and half the sum of both is off by half the difference of `q` and `p`. To this
comes what is cut off, which is less than one nanosecond on either side of
nought, as twice a truncated half is short of the whole by one at most
(`abs_two_mul_half_sub_le`).

Nothing else is lost. Half the sum of two intervals is an interval
(`ns_estimate`), and so is the mean of some (`ns_mean`): a mean that is cut off
towards nought still lies between any two whole numbers that the samples lie
between (`le_mean`, `mean_le`).
-/
import Mathlib
import Federation.ClockSync.Round

namespace Federation

namespace ClockSync

/-! ### Halves -/

/-- Twice a truncated half is the whole but for one. -/
theorem abs_two_mul_half_sub_le (n : Int) : |2 * n.tdiv 2 - n| ≤ 1 := by
  have hrest := Int.mul_tdiv_add_tmod n 2
  have hlt := Int.tmod_lt_of_pos n (show (0 : Int) < 2 by decide)
  have hgt := Int.lt_tmod_of_pos n (show (0 : Int) < 2 by decide)
  rw [abs_le]
  omega

/-- Half the sum of two intervals is an interval. -/
theorem inRange_half {a b : Int} (ha : Nanos.InRange a) (hb : Nanos.InRange b) :
    Nanos.InRange ((a + b).tdiv 2) := by
  have hhalf := abs_le.mp (abs_two_mul_half_sub_le (a + b))
  unfold Nanos.InRange at *
  omega

/-! ### One exchange -/

/-- An estimate is the truncated half of the two differences, each as near as
there is an interval. -/
theorem ns_estimate (t1 t2 t3 t4 : Instant) :
    (estimate t1 t2 t3 t4).ns
      = (Nanos.clamp (t1.ns - t2.ns) + Nanos.clamp (t4.ns - t3.ns)).tdiv 2 :=
  Nanos.clamp_of_inRange
    (inRange_half (Nanos.inRange_clamp _) (Nanos.inRange_clamp _))

/-- If the differences are exact, twice the estimate is their sum but for one. -/
theorem abs_two_mul_estimate_sub_le {t1 t2 t3 t4 : Instant}
    (hout : Nanos.InRange (t1.ns - t2.ns))
    (hback : Nanos.InRange (t4.ns - t3.ns)) :
    |2 * (estimate t1 t2 t3 t4).ns - ((t1.ns - t2.ns) + (t4.ns - t3.ns))| ≤ 1 := by
  rw [ns_estimate, Nanos.clamp_of_inRange hout, Nanos.clamp_of_inRange hback]
  exact abs_two_mul_half_sub_le _

/-! ### Means -/

/-- The sum of some intervals, in numbers without a limit. -/
def total (samples : List Interval) : Int := (samples.map Interval.ns).sum

variable {samples : List Interval} {lo hi : Int}

theorem total_reverse (samples : List Interval) :
    total samples.reverse = total samples := by
  rw [total, List.map_reverse, List.sum_reverse, total]

theorem mul_length_le_total (h : ∀ s ∈ samples, lo ≤ s.ns) :
    lo * samples.length ≤ total samples := by
  have hsum :=
    List.card_nsmul_le_sum (samples.map Interval.ns) lo (by simpa using h)
  rwa [List.length_map, nsmul_eq_mul, mul_comm] at hsum

theorem total_le_mul_length (h : ∀ s ∈ samples, s.ns ≤ hi) :
    total samples ≤ hi * samples.length := by
  have hsum :=
    List.sum_le_card_nsmul (samples.map Interval.ns) hi (by simpa using h)
  rwa [List.length_map, nsmul_eq_mul, mul_comm] at hsum

/-- The truncated mean is no less than any whole number that none of the samples
is less than. -/
theorem le_truncated_mean (hne : samples ≠ []) (h : ∀ s ∈ samples, lo ≤ s.ns) :
    lo ≤ (total samples).tdiv samples.length := by
  have hpos : (0 : Int) < samples.length :=
    Int.natCast_pos.mpr (List.length_pos_iff.mpr hne)
  exact Int.le_tdiv_of_mul_le hpos (mul_length_le_total h)

theorem truncated_mean_le (hne : samples ≠ []) (h : ∀ s ∈ samples, s.ns ≤ hi) :
    (total samples).tdiv samples.length ≤ hi := by
  have hpos : (0 : Int) < samples.length :=
    Int.natCast_pos.mpr (List.length_pos_iff.mpr hne)
  calc (total samples).tdiv samples.length
      ≤ (hi * samples.length).tdiv samples.length :=
        Int.tdiv_le_tdiv hpos (total_le_mul_length h)
    _ = hi := Int.mul_tdiv_cancel hi hpos.ne'

/-- The mean is the truncated quotient of the sum and the number of samples. -/
theorem ns_mean (hne : samples ≠ []) :
    (mean samples).ns = (total samples).tdiv samples.length := by
  have hsum :
      samples.foldl (fun sum (d : Interval) => sum + d.ns) 0 = total samples := by
    rw [total, List.sum_eq_foldl, List.foldl_map]
  rw [mean, Interval.ns_clamp, hsum]
  exact Nanos.clamp_of_inRange ⟨le_truncated_mean hne fun s _ => s.inRange.1,
    truncated_mean_le hne fun s _ => s.inRange.2⟩

theorem le_mean (hne : samples ≠ []) (h : ∀ s ∈ samples, lo ≤ s.ns) :
    lo ≤ (mean samples).ns := by
  rw [ns_mean hne]
  exact le_truncated_mean hne h

theorem mean_le (hne : samples ≠ []) (h : ∀ s ∈ samples, s.ns ≤ hi) :
    (mean samples).ns ≤ hi := by
  rw [ns_mean hne]
  exact truncated_mean_le hne h

end ClockSync

/-! ### Rounds -/

namespace SyncRound

open ClockSync

variable {r : SyncRound} {t4 : Instant} {d : Interval}

/-- The estimates of a round when a T4 has come, the last one first. -/
def samplesWith (r : SyncRound) (t4 : Instant) : List Interval :=
  (r.sample? t4).toList ++ r.samples

/-- The round after a T4, but for its estimates. -/
def closed (r : SyncRound) : SyncRound :=
  { r with pending := none
           answered := if r.pending.isSome then none else r.answered }

/-- What a T4 can come to: it completes no exchange, or one of a round that is
not complete yet, or the round. -/
theorem onT4_cases (r : SyncRound) (t4 : Instant) :
    (r.sample? t4 = none ∧ r.onT4 t4 = (r.closed, none)) ∨
    (∃ sample, r.sample? t4 = some sample ∧ r.samples.length + 1 < r.exchanges ∧
      r.onT4 t4 = ({ r.closed with samples := sample :: r.samples }, none)) ∨
    (∃ sample, r.sample? t4 = some sample ∧ r.exchanges ≤ r.samples.length + 1 ∧
      r.onT4 t4 =
        ({ r.closed with samples := [] }, some (mean (sample :: r.samples)))) := by
  rcases hsample : r.sample? t4 with - | sample
  · refine .inl ⟨rfl, ?_⟩
    simp [onT4, hsample, closed]
  · by_cases hmore : r.samples.length + 1 < r.exchanges
    · refine .inr (.inl ⟨sample, rfl, hmore, ?_⟩)
      simp [onT4, hsample, closed, hmore]
    · refine .inr (.inr ⟨sample, rfl, Nat.not_lt.mp hmore, ?_⟩)
      simp [onT4, hsample, closed, hmore]

/-- A correction is the mean of the estimates of its round. -/
theorem eq_mean_of_onT4 (h : (r.onT4 t4).2 = some d) :
    r.samplesWith t4 ≠ [] ∧ d = mean (r.samplesWith t4) := by
  rcases r.onT4_cases t4 with
    ⟨-, hresult⟩ | ⟨_, -, -, hresult⟩ | ⟨sample, hsample, -, hresult⟩
  · rw [hresult] at h
    cases h
  · rw [hresult] at h
    cases h
  · rw [hresult] at h
    cases h
    rw [samplesWith, hsample]
    exact ⟨List.cons_ne_nil _ _, rfl⟩

/-- **How good an estimate is.** Let the coordinator's clock be ahead by `x`, and
let its times take `p` to reach the federate and the answer `q` to reach it. If
both differences lie in the range, the estimate is exact for `p = q`, and
otherwise off by half of how much they differ and half a nanosecond at most.
Whatever the times are, it is the truncated half of the two differences, each as
near as there is an interval. If all samples of a round lie within `e` of `x`, so
does its correction. -/
theorem estimate_accurate (t1 t2 t3 t4 : Instant) (r : SyncRound) (x p q e : Int) :
    let half := (Nanos.clamp (t1.ns - t2.ns) + Nanos.clamp (t4.ns - t3.ns)).tdiv 2
    (t2.ns = t1.ns - x + p → t4.ns = t3.ns + x + q →
      Nanos.InRange (t1.ns - t2.ns) → Nanos.InRange (t4.ns - t3.ns) →
      |2 * (estimate t1 t2 t3 t4).ns - (2 * x + q - p)| ≤ 1 ∧
      (p = q → (estimate t1 t2 t3 t4).ns = x) ∧
      2 * |(estimate t1 t2 t3 t4).ns - x| ≤ |q - p| + 1) ∧
    Nanos.InRange half ∧ (estimate t1 t2 t3 t4).ns = half ∧
    ∀ d, (r.onT4 t4).2 = some d → (∀ s ∈ r.samplesWith t4, |s.ns - x| ≤ e) →
      |d.ns - x| ≤ e := by
  refine ⟨fun harrives hreturns hout hback => ?_, ?_, ns_estimate t1 t2 t3 t4,
    fun d hd hsamples => ?_⟩
  · have hdouble := abs_two_mul_estimate_sub_le hout hback
    rw [show t1.ns - t2.ns + (t4.ns - t3.ns) = 2 * x + q - p by omega] at hdouble
    generalize (estimate t1 t2 t3 t4).ns = d at hdouble ⊢
    refine ⟨hdouble, fun hsame => ?_, ?_⟩
    · rw [abs_le] at hdouble
      omega
    -- what an estimate is off by is the rounding and half of what the delays
    -- differ by
    · have hsplit : 2 * |d - x| = |(2 * d - (2 * x + q - p)) + (q - p)| := by
        rw [← abs_two, ← abs_mul]
        congr 1
        ring_nf
      rw [hsplit]
      linarith [abs_add_le (2 * d - (2 * x + q - p)) (q - p)]
  · exact inRange_half (Nanos.inRange_clamp _) (Nanos.inRange_clamp _)
  · obtain ⟨hne, rfl⟩ := eq_mean_of_onT4 hd
    have hlo : x - e ≤ (mean (r.samplesWith t4)).ns :=
      le_mean hne fun s hs => by linarith [(abs_le.mp (hsamples s hs)).1]
    have hhi : (mean (r.samplesWith t4)).ns ≤ x + e :=
      mean_le hne fun s hs => by linarith [(abs_le.mp (hsamples s hs)).2]
    rw [abs_le]
    constructor <;> linarith

/-- A round of two exchanges, the second of which has been answered. -/
def lastExchange : SyncRound where
  exchanges := 2
  pending := some (⟨10000, by decide⟩, ⟨9050, by decide⟩)
  answered := some ⟨9100, by decide⟩
  samples := [⟨998, by decide⟩]

/-- The coordinator is ahead by a thousand nanoseconds, and its answer is one
nanosecond slower than its question. The correction of the round is as near as
its samples are. With the times as far apart as there are, the estimate is the
first interval there is. -/
theorem estimate_accurate_of_lastExchange :
    |2 * (estimate ⟨10000, by decide⟩ ⟨9050, by decide⟩ ⟨9100, by decide⟩
      ⟨10151, by decide⟩).ns - (2 * 1000 + 51 - 50)| ≤ 1 ∧
    (∃ d, (lastExchange.onT4 ⟨10151, by decide⟩).2 = some d ∧ |d.ns - 1000| ≤ 2) ∧
    (estimate .never .forever .forever .never).ns = -9223372036854775808 := by
  obtain ⟨hestimate, -, -, hround⟩ :=
    estimate_accurate ⟨10000, by decide⟩ ⟨9050, by decide⟩
    ⟨9100, by decide⟩ ⟨10151, by decide⟩ lastExchange 1000 50 51 2
  have hclamped :=
    (estimate_accurate .never .forever .forever .never lastExchange 0 0 0 0).2.2.1
  have hcorrection :
      (lastExchange.onT4 ⟨10151, by decide⟩).2 = some ⟨999, by decide⟩ := by
    decide
  refine ⟨?_, ⟨_, hcorrection, hround _ hcorrection (by decide)⟩,
    hclamped.trans (by decide)⟩
  exact (hestimate (by decide) (by decide) (by decide) (by decide)).1

end SyncRound

end Federation
