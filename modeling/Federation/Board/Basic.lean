/-
Federation/Board/Basic.lean

The status board.

For every network input the board knows at which tags a message has arrived, and
through which tag its status is known. Messages and notices of one connection
arrive in the order of their tags, so each of them makes all earlier tags known
as well. A tag at which a message arrived is present; another tag through which
the status is known is absent; all others are unknown.

A message that arrives for a tag already taken for absent is tardy. It is
recorded all the same, so its tag is present from then on.
-/
import Federation.Identifier
import Federation.Time.Tag

namespace Federation

/-- What is known of an input at a tag. -/
inductive PortStatus where
  | unknown
  | present
  | absent
deriving DecidableEq

/-- How the board took a message. -/
inductive Mark where
  | accepted
  /-- The tag had already been taken for absent. -/
  | tardy
deriving DecidableEq

/-- What the board knows of one input. -/
@[ext] structure PortRecord where
  /-- The status is known for every tag up to and including this one. -/
  knownThrough : Tag := .never
  /-- The tags at which a message arrived. -/
  present : List Tag := []
deriving DecidableEq

namespace PortRecord

/-- What is known at a tag. -/
def status (r : PortRecord) (tag : Tag) : PortStatus :=
  if tag ∈ r.present then .present
  else if tag ≤ r.knownThrough then .absent
  else .unknown

/-- Makes the status known through a tag. -/
def advance (r : PortRecord) (tag : Tag) : PortRecord :=
  { r with knownThrough := r.knownThrough.later tag }

/-- Records a message. -/
def insert (r : PortRecord) (tag : Tag) : PortRecord :=
  { r with present := if tag ∈ r.present then r.present else tag :: r.present }

/-- Forgets the messages before a tag. -/
def pruneBefore (r : PortRecord) (tag : Tag) : PortRecord :=
  { r with present := r.present.filter (tag ≤ ·) }

variable (r : PortRecord) (tag : Tag)

/-- A notice makes nothing present. -/
@[simp] theorem present_advance : (r.advance tag).present = r.present := rfl

@[simp] theorem knownThrough_advance :
    (r.advance tag).knownThrough = r.knownThrough.later tag := rfl

@[simp] theorem knownThrough_insert :
    (r.insert tag).knownThrough = r.knownThrough := rfl

/-- A message is recorded once, however often it comes. -/
@[simp] theorem mem_present_insert {g : Tag} :
    g ∈ (r.insert tag).present ↔ g ∈ r.present ∨ g = tag := by
  unfold insert
  by_cases h : tag ∈ r.present
  · rw [if_pos h, iff_self_or]
    rintro rfl
    exact h
  · rw [if_neg h, List.mem_cons, or_comm]

end PortRecord

/-- What a federate knows of its network inputs. -/
@[ext] structure Board where
  ports : Std.ExtTreeMap PortId PortRecord := ∅
  /-- Whether the federate is about to end; then nothing is waited for. -/
  shuttingDown : Bool := false

namespace Board

/-- The board of a federate that has heard nothing. -/
def empty : Board := {}

/-- The record of an input, the blank one if nothing was heard of it. -/
def record (b : Board) (port : PortId) : PortRecord := b.ports.getD port {}

/-- Replaces the record of an input. -/
def update (b : Board) (port : PortId) (f : PortRecord → PortRecord) : Board :=
  { b with ports := b.ports.insert port (f (b.record port)) }

/-- What is known of an input at a tag. -/
def status (b : Board) (port : PortId) (tag : Tag) : PortStatus :=
  match b.ports[port]? with
  | some r => r.status tag
  | none => .unknown

/-- Records a message for an input. It is tardy if the record, blank or not, has
its tag as absent. -/
def markPresent (b : Board) (port : PortId) (tag : Tag) : Board × Mark :=
  (b.update port fun r => (r.insert tag).advance tag,
    if (b.record port).status tag = .absent then .tardy else .accepted)

/-- Records that an input is absent through a tag, but for the messages that
arrived. -/
def markAbsent (b : Board) (port : PortId) (tag : Tag) : Board :=
  b.update port (·.advance tag)

/-- Forgets the messages before a tag, at every input. -/
def pruneBefore (b : Board) (tag : Tag) : Board :=
  { b with ports := b.ports.map fun _ r => r.pruneBefore tag }

/-- Ends all waiting, now and later. -/
def shutdown (b : Board) : Board := { b with shuttingDown := true }

variable (port : PortId)

/-- Of what nothing was heard nothing is known. -/
@[simp] theorem status_empty (tag : Tag) : empty.status port tag = .unknown := by
  rw [status, empty, Std.ExtTreeMap.getElem?_empty]

@[simp] theorem record_empty : empty.record port = {} := Std.ExtTreeMap.getD_empty

variable (b : Board) (f : PortRecord → PortRecord)

@[simp] theorem getElem?_update_self :
    (b.update port f).ports[port]? = some (f (b.record port)) :=
  Std.ExtTreeMap.getElem?_insert_self

/-- An update is read back at its own input. -/
@[simp] theorem record_update_self :
    (b.update port f).record port = f (b.record port) :=
  Std.ExtTreeMap.getD_insert_self

variable {port} {port' : PortId}

/-- An update of one input leaves the record of another alone. -/
theorem getElem?_update_of_ne (h : port' ≠ port) :
    (b.update port f).ports[port']? = b.ports[port']? := by
  have hne : compare port port' ≠ .eq :=
    fun heq => h (Std.LawfulEqOrd.eq_of_compare heq).symm
  rw [update, Std.ExtTreeMap.getElem?_insert, if_neg hne]

theorem record_update_of_ne (h : port' ≠ port) :
    (b.update port f).record port' = b.record port' := by
  rw [record, Std.ExtTreeMap.getD_eq_getD_getElem?, getElem?_update_of_ne b f h,
    ← Std.ExtTreeMap.getD_eq_getD_getElem?, record]

end Board

end Federation
