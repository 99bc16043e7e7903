/-
Federation/Retry.lean

Bounded retries.

A retry policy allows a number of attempts, at least one. Between two attempts
there is a pause: the first is the initial one, each is twice the one before
until the sixteenth doubling, and none is longer than the longest allowed. The
share of a pause that may be added at random is part of the policy, but how much
is added is not decided here.

`RetryPolicy.runM` makes attempts until one succeeds or none is left, pauses
between them, and tells the pauses. What an attempt and a pause are is left
open, as any monad says; `RetryPolicy.run` is the run whose attempts are known
beforehand.
-/
import Federation.Duration
import Federation.Fault

namespace Federation

/-- How often an attempt is repeated, and how long the pauses are. -/
structure RetryPolicy where
  /-- The number of attempts, the first one included. -/
  maxAttempts : UInt32 := 10
  initialBackoff : Duration := .ofMillis 100
  maxBackoff : Duration := .ofSeconds 2
  /-- Up to this share of each pause is added at random. -/
  jitter : Float := 0.1

/-- What came of a run: the number of attempts, the pauses between them, and the
result. -/
structure RetryRun (α : Type) where
  attempts : Nat
  pauses : List Duration
  result : Except Fault α

namespace RetryPolicy

variable {α : Type} (policy : RetryPolicy)

/-- The number of attempts that the policy comes to. -/
def attempts : Nat := max policy.maxAttempts.toNat 1

/-- The pause before a retry, counted from nought, without what is added at
random. -/
def backoff (retry : Nat) : Duration :=
  (policy.initialBackoff.saturatingMul (Nat.pow 2 (min retry 16))).shorter
    policy.maxBackoff

section Monad

variable {m : Type → Type} [Monad m]

/-- Makes the attempts from number `n` on, with `left` more after it. -/
def runFromM (what : String) (pause : Duration → m Unit)
    (attempt : Nat → m (Except IoError α)) : (left n : Nat) → m (RetryRun α)
  | 0, n => do
    match ← attempt n with
    | .ok a => return ⟨n + 1, [], .ok a⟩
    | .error e => return ⟨n + 1, [], .error (.unreachable what policy.attempts e)⟩
  | left + 1, n => do
    match ← attempt n with
    | .ok a => return ⟨n + 1, [], .ok a⟩
    | .error _ =>
      pause (policy.backoff n)
      let run ← runFromM what pause attempt left (n + 1)
      return { run with pauses := policy.backoff n :: run.pauses }

/-- Makes attempts until one succeeds or none is left, and pauses between them. -/
def runM (what : String) (pause : Duration → m Unit)
    (attempt : Nat → m (Except IoError α)) : m (RetryRun α) :=
  policy.runFromM what pause attempt (policy.attempts - 1) 0

end Monad

/-- The attempts from number `n` on, with `left` more after it, where attempt
`n` ends as `attempt n` says. -/
def runFrom (what : String) (attempt : Nat → Except IoError α) (left n : Nat) :
    RetryRun α :=
  Id.run
    (policy.runFromM what (fun _ => pure ()) (fun n => pure (attempt n)) left n)

/-- A run in which attempt `n` ends as `attempt n` says. -/
def run (what : String) (attempt : Nat → Except IoError α) : RetryRun α :=
  policy.runFrom what attempt (policy.attempts - 1) 0

variable {policy} {what : String} {attempt : Nat → Except IoError α}
  {left n : Nat} {a : α} {e : IoError}

/-- The first success ends the run. -/
theorem runFrom_of_ok (h : attempt n = .ok a) :
    policy.runFrom what attempt left n = ⟨n + 1, [], .ok a⟩ := by
  cases left <;> simp [runFrom, runFromM, h]

/-- So does a failure when no attempt is left. -/
theorem runFrom_zero_of_error (h : attempt n = .error e) :
    policy.runFrom what attempt 0 n
      = ⟨n + 1, [], .error (.unreachable what policy.attempts e)⟩ := by
  simp [runFrom, runFromM, h]

/-- Otherwise a failure is followed by a pause and by the attempts that are left.
-/
theorem runFrom_succ_of_error (h : attempt n = .error e) :
    policy.runFrom what attempt (left + 1) n =
      let run := policy.runFrom what attempt left (n + 1)
      { run with pauses := policy.backoff n :: run.pauses } := by
  simp [runFrom, runFromM, h]

end RetryPolicy

end Federation
