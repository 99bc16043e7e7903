/-
Federation/ClockSync/Round.lean

Clock synchronisation with the coordinator.

In one exchange the coordinator tells its time, the federate answers, and the
coordinator tells its time again:

    coordinator --- T1 (t1) --> federate, which receives it at t2
    coordinator <-- T3 -------- federate, which sends it at t3
    coordinator --- T4 (t4) --> federate: t4 is when the answer came

From the four times follows an estimate of what to add to the local clock. A
round is a number of exchanges; its correction is the mean of their estimates,
truncated towards nought.

`SyncRound` takes the events of the exchanges as they come. An estimate is made
only at a T4 that follows a T1 with an answer between them; anything out of
order makes none.
-/
import Federation.Clock
import Federation.Identifier

namespace Federation

/-- When a federate synchronises its clock. -/
inductive ClockSyncMode where
  | off
  /-- Once, when it starts. -/
  | init
  /-- When it starts, and from time to time while it runs. -/
  | on
deriving DecidableEq

/-- A mode as diagnostics show it. -/
def ClockSyncMode.render : ClockSyncMode → String
  | off => "Off"
  | init => "Init"
  | on => "On"

namespace ClockSync

/-- The exchanges to ask for at the start. A federate on the host of the
coordinator asks for none, unless it is forced to. -/
def startupExchanges (mode : ClockSyncMode) (exchanges : UInt16)
    (sameHost force : Bool) : UInt16 :=
  match mode with
  | .off => 0
  | _ => if sameHost && !force then 0 else exchanges

/-- The offset that a federate starts with in tests: one skew more than the
federate before it. -/
def testOffset (federate : FederateId) (skew : Interval) : Interval :=
  .clamp ((1 + federate.number.toNat : Nat) * skew.ns)

/-- What one exchange says is to be added to the local clock. -/
def estimate (t1 t2 t3 t4 : Instant) : Interval :=
  .clamp (((t1.since t2).ns + (t4.since t3).ns).tdiv 2)

/-- The mean of some intervals, truncated towards nought. -/
def mean (samples : List Interval) : Interval :=
  let sum : Int := samples.foldl (fun sum d => sum + d.ns) 0
  .clamp (sum.tdiv samples.length)

end ClockSync

/-- A round of exchanges under way. -/
@[ext] structure SyncRound where
  /-- The number of exchanges that make the round. -/
  exchanges : Nat
  /-- The time that the last T1 told, and the time at which it came. -/
  pending : Option (Instant × Instant) := none
  /-- The time at which the last answer to it left. -/
  answered : Option Instant := none
  /-- The estimates so far, the last one first. -/
  samples : List Interval := []
deriving DecidableEq

namespace SyncRound

/-- A fresh round of at least one exchange. -/
def ofExchanges (exchanges : UInt16) : SyncRound :=
  { exchanges := max exchanges.toNat 1 }

/-- A T1 came when the clock showed `now`. -/
def onT1 (r : SyncRound) (t1 now : Instant) : SyncRound :=
  { r with pending := some (t1, now), answered := none }

/-- The answer left when the clock showed `now`. -/
def onAnswer (r : SyncRound) (now : Instant) : SyncRound :=
  { r with answered := some now }

/-- The estimate that a T4 completes. -/
def sample? (r : SyncRound) (t4 : Instant) : Option Interval := do
  let (t1, t2) ← r.pending
  let t3 ← r.answered
  return ClockSync.estimate t1 t2 t3 t4

/-- A T4 came. If it completes the round, the result holds the correction. -/
def onT4 (r : SyncRound) (t4 : Instant) : SyncRound × Option Interval :=
  let rest :=
    { r with pending := none
             answered := if r.pending.isSome then none else r.answered }
  match r.sample? t4 with
  | none => (rest, none)
  | some sample =>
    let samples := sample :: r.samples
    if samples.length < r.exchanges then ({ rest with samples }, none)
    else ({ rest with samples := [] }, some (ClockSync.mean samples))

end SyncRound

/-- A round together with the clock that it corrects. -/
structure SyncState where
  round : SyncRound
  clock : Clock

namespace SyncState

/-- A T1 came; its arrival is read off the clock. -/
def onT1 (s : SyncState) (t1 : Instant) : SyncState :=
  ⟨s.round.onT1 t1 s.clock.now, s.clock.tick⟩

/-- The answer left; its departure is read off the clock. -/
def onAnswer (s : SyncState) : SyncState :=
  ⟨s.round.onAnswer s.clock.now, s.clock.tick⟩

/-- A T4 came. The correction of a complete round is applied to the clock and is
the result. -/
def onT4 (s : SyncState) (t4 : Instant) : SyncState × Option Interval :=
  match s.round.onT4 t4 with
  | (round, none) => (⟨round, s.clock⟩, none)
  | (round, some correction) =>
    (⟨round, (s.clock.adjust correction).1⟩, some correction)

end SyncState

end Federation
