/-
Federation/Identifier.lean

Federates and ports.

A federate is known by a 16-bit number, unique in its federation. A network port
is known on the wire by a 16-bit number as well: the position of the port's
action in the list of actions of the federate that receives there. Inside a
federate a port has a name, and coordinates if it belongs to a bank of reactors
or is one channel of a multiport.

All three are ordered: numbers as numbers; ports by name (by the bytes of its
encoding, which is the order of the code points), then by bank, then by channel,
a missing coordinate first.
-/
import Std.Data.ExtTreeMap
import Std.Data.ExtTreeSet

namespace Federation

/-- The number of a federate, unique in its federation. -/
@[ext] structure FederateId where
  number : UInt16
deriving DecidableEq

/-- The position of a network action in the list of the federate that receives
there. -/
@[ext] structure PortId where
  number : UInt16
deriving DecidableEq

/-- A port inside a federate, by its name and, where it has any, its bank and
channel. -/
@[ext] structure Port where
  /-- The qualified name, such as `sender.out`. -/
  name : String
  /-- The position in a bank of reactors. -/
  bank : Option UInt32 := none
  /-- The position in a multiport. -/
  channel : Option UInt32 := none
deriving DecidableEq

namespace FederateId

instance : Inhabited FederateId := ⟨⟨0⟩⟩
instance : Ord FederateId := ⟨compareOn number⟩
instance : Std.TransOrd FederateId :=
  inferInstanceAs (Std.TransCmp (compareOn number))

instance : Std.LawfulEqOrd FederateId where
  eq_of_compare h := FederateId.ext (Std.LawfulEqOrd.eq_of_compare h)

/-- A federate prints as its kind and number. -/
def render (f : FederateId) : String := "Federate(" ++ toString f.number ++ ")"

/-- A federate inside a printed list. -/
def renderInList (f : FederateId) : String :=
  "FederateId(" ++ toString f.number ++ ")"

end FederateId

namespace PortId

instance : Inhabited PortId := ⟨⟨0⟩⟩
instance : Ord PortId := ⟨compareOn number⟩
instance : Std.TransOrd PortId := inferInstanceAs (Std.TransCmp (compareOn number))

instance : Std.LawfulEqOrd PortId where
  eq_of_compare h := PortId.ext (Std.LawfulEqOrd.eq_of_compare h)

/-- The position in the list of actions. -/
def ordinal (p : PortId) : Nat := p.number.toNat

/-- A port number prints as its kind and number. -/
def render (p : PortId) : String := "Port(" ++ toString p.number ++ ")"

end PortId

namespace Port

instance : Inhabited Port := ⟨{ name := "" }⟩

/-- Whether the port is one element of a bank or of a multiport. -/
def isIndexed (p : Port) : Bool := p.bank.isSome || p.channel.isSome

/-- Whether the port is neither in a bank nor in a multiport. -/
def isScalar (p : Port) : Bool := !p.isIndexed

/-- Ports are compared by name, then by bank, then by channel; a missing
coordinate comes first. -/
def compareLexically : Port → Port → Ordering :=
  compareLex (compareOn name) (compareLex (compareOn bank) (compareOn channel))

instance : Ord Port := ⟨compareLexically⟩
instance : Std.TransOrd Port :=
  inferInstanceAs (Std.TransCmp
    (compareLex (compareOn name) (compareLex (compareOn bank) (compareOn channel))))

instance : Std.LawfulEqOrd Port where
  eq_of_compare {a b} h := by
    have h : compareLexically a b = .eq := h
    simp only [compareLexically, compareLex_eq_eq, compareOn,
      Std.LawfulEqOrd.compare_eq_iff_eq] at h
    exact Port.ext h.1 h.2.1 h.2.2

/-- The printed coordinates; empty for a scalar port. -/
def renderCoordinates (p : Port) : String :=
  (match p.bank with | some b => "[bank=" ++ toString b ++ "]" | none => "") ++
  (match p.channel with | some c => "[ch=" ++ toString c ++ "]" | none => "")

/-- A port prints as its name and coordinates. -/
def render (p : Port) : String := p.name ++ p.renderCoordinates

end Port

end Federation
