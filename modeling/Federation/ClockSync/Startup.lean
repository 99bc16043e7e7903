/-
Federation/ClockSync/Startup.lean

Clock synchronisation at the start.

Before a federate starts it may run one round of exchanges with the coordinator,
in which nothing else may come over the connection. Only when all exchanges are
complete is the clock corrected, by the mean of their estimates; if anything
goes wrong before, the clock stays as it is.
-/
import Federation.ClockSync.Round
import Federation.Link.Conversation

namespace Federation.ClockSync

variable {σ : Type} [Link σ]

/-- The frames that the coordinator sends in an exchange. -/
inductive Awaited where
  | t1
  | t4
deriving DecidableEq

namespace Awaited

/-- The name of a frame that is waited for, as diagnostics show it. -/
def name : Awaited → String
  | t1 => "T1"
  | t4 => "T4"

/-- The frame that tells a time. -/
def frame : Awaited → Instant → Frame
  | t1 => .clockSyncT1
  | t4 => .clockSyncT4

/-- The time that a frame tells, if it is the one that is waited for. -/
def time? : Awaited → Frame → Option Instant
  | t1, .clockSyncT1 time => some time
  | t4, .clockSyncT4 time => some time
  | _, _ => none

variable {a : Awaited} {f : Frame} {time : Instant}

/-- A frame that is waited for tells its time. -/
@[simp] theorem time?_frame (a : Awaited) (time : Instant) :
    a.time? (a.frame time) = some time := by
  cases a <;> rfl

/-- The frame that is waited for is the only one that tells a time. -/
theorem time?_eq_some_iff : a.time? f = some time ↔ f = a.frame time := by
  refine ⟨fun h => ?_, fun h => h ▸ time?_frame a time⟩
  cases a <;> cases f <;> cases h <;> rfl

end Awaited

/-- The fault of a frame that is not the one that is waited for. -/
def unexpected (a : Awaited) (f : Frame) : Fault :=
  .protocol "coordinator"
    ("expected clock sync " ++ a.name ++ ", got " ++ f.kindName)

/-- Waits for a frame; the result is the time that it tells. -/
def await (a : Awaited) : Conversation σ Instant := do
  let f ← Conversation.receive "coordinator"
  match a.time? f with
  | some time => return time
  | none => throw (unexpected a f)

/-- One exchange; the result is its estimate. -/
def exchange (federate : FederateId) : Conversation σ Interval := do
  let t1 ← await .t1
  let t2 ← Conversation.now
  Conversation.send "coordinator" (.clockSyncT3 federate)
  let t3 ← Conversation.now
  let t4 ← await .t4
  return estimate t1 t2 t3 t4

/-- So many exchanges, one after another; the result is their estimates. -/
def collect (federate : FederateId) : Nat → Conversation σ (List Interval)
  | 0 => return []
  | n + 1 => do
    let sample ← exchange federate
    let samples ← collect federate n
    return sample :: samples

/-- One round of exchanges, at least one of them. The result is the correction
of the clock. -/
def synchronize (federate : FederateId) (exchanges : UInt16) :
    Conversation σ Interval := do
  let correction := mean (← collect federate (max exchanges.toNat 1))
  Conversation.adjustClock correction
  return correction

end Federation.ClockSync
