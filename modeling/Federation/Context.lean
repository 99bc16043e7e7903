/-
Federation/Context.lean

The setting in which the reactions of a federate run: who it is, how its
federation is coordinated, how long it waits beyond the time of a tag before it
takes an input for absent, and how it writes payloads.
-/
import Federation.Payload

namespace Federation

/-- The setting of the reactions of a federate. -/
structure Context (μ : Type) where
  federate : FederateId
  coordination : Coordination
  /-- The safe-to-process offset, which counts where federates advance on their
  own. -/
  stpOffset : Interval := .zero
  codec : PayloadCodec μ := {}

namespace Context

variable {μ : Type} (ctx : Context μ)

/-- Whether federates advance on their own. -/
def isDecentralized : Bool := ctx.coordination = .decentralized

/-- The interval itself where federates advance on their own, and nought
elsewhere. -/
def effective (d : Interval) : Interval := if ctx.isDecentralized then d else .zero

/-- The safe-to-process offset that counts. -/
def effectiveStpOffset : Interval := ctx.effective ctx.stpOffset

/-- A setting as diagnostics show it. -/
def render : String :=
  "ReactionContext \x7b federate: " ++ ctx.federate.renderInList ++
    ", coordination: " ++ ctx.coordination.render ++ ", stp_offset: Interval(" ++
    toString ctx.stpOffset.ns ++ "), .. \x7d"

end Context

end Federation
