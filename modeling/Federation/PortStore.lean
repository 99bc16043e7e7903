/-
Federation/PortStore.lean

The ports of a federate at its current tag.

A port may carry a value, may have been resolved as absent, and may be annotated
with how its value arrived. Going on to another tag clears all of that; setting
a value ends an absence.

`PortView` is what a reaction may see of the ports: the tag, whether a port is
present, and its value.
-/
import Federation.Identifier
import Federation.Time.Tag
import Federation.Value

namespace Federation

/-- How the value of a port arrived: when, and the tag that it was intended for,
if it is told. -/
@[ext] structure ArrivalNote where
  arrival : Instant
  intended : Option Tag
deriving DecidableEq

/-- What a port holds at the current tag. -/
@[ext] structure PortState (μ : Type) where
  value : Option (PortValue μ) := none
  /-- Whether the port was resolved as absent. -/
  absent : Bool := false
  note : Option ArrivalNote := none
deriving DecidableEq

/-- The ports of a federate at its current tag. -/
@[ext] structure PortStore (μ : Type) where
  tag : Tag
  ports : Std.ExtTreeMap Port (PortState μ) := ∅

/-- What a reaction sees of the ports. -/
structure PortView (μ : Type) where
  tag : Tag
  isPresent : Port → Bool
  value? : Port → Option (PortValue μ)

namespace PortStore

variable {μ : Type}

/-- The ports at a tag that has just begun: none of them holds anything. -/
def fresh (tag : Tag) : PortStore μ := { tag }

variable (s : PortStore μ)

/-- What a port holds. -/
def state (port : Port) : PortState μ := s.ports.getD port {}

/-- Changes what a port holds. -/
def update (port : Port) (f : PortState μ → PortState μ) : PortStore μ :=
  { s with ports := s.ports.insert port (f (s.state port)) }

@[simp] theorem tag_update (port : Port) (f : PortState μ → PortState μ) :
    (s.update port f).tag = s.tag := rfl

@[simp] theorem ports_update (port : Port) (f : PortState μ → PortState μ) :
    (s.update port f).ports = s.ports.insert port (f (s.state port)) := rfl

/-- An update is read back at its own port. -/
@[simp] theorem state_update_self (port : Port) (f : PortState μ → PortState μ) :
    (s.update port f).state port = f (s.state port) := by
  rw [state, update, Std.ExtTreeMap.getD_insert_self]

/-- Sets the value of a port. -/
def set (port : Port) (value : PortValue μ) : PortStore μ :=
  s.update port fun p => { p with value := some value, absent := false }

/-- Resolves a port as absent. -/
def markAbsent (port : Port) : PortStore μ :=
  s.update port fun p => { p with absent := true }

/-- Notes how the value of a port arrived. -/
def addNote (port : Port) (note : ArrivalNote) : PortStore μ :=
  s.update port fun p => { p with note := some note }

/-- What a reaction sees. -/
def view : PortView μ where
  tag := s.tag
  isPresent port := (s.state port).value.isSome
  value? port := (s.state port).value

end PortStore

end Federation
