/-
Federation/Config/Record.lean

Records and their fields in a document.

A record is written as a table, whose keys name the fields, or as a list of the
values of its fields in order. What a table holds beyond the fields, and a list
behind the last of them, does not count. In the place of a table, a date sets no
field.

A `RecordReader` reads the fields one after another. A field that is missing has
a default value or makes the record unreadable, and so does a field of the wrong
kind.
-/
import Federation.Decimal.Nearest
import Federation.Duration.Written
import Federation.Toml.Item

namespace Federation

/-- The values of the fields of a record as far as they have not been read. -/
inductive Fields where
  | named (entries : Toml.Entries)
  | listed (items : List Toml.Item)

/-- The fields of a record in a document. -/
def Fields.ofItem? : Toml.Item → Option Fields
  | .table _ entries => some (.named entries)
  | .array items => some (.listed items)
  | .tables tables => some (.listed (tables.map (.table .header)))
  | .moment => some (.named [])
  | _ => none

/-- A program that reads the fields of a record. -/
abbrev RecordReader := StateT Fields Option

/-- A type whose values can stand in a document. -/
class Written (α : Type) where
  /-- The value that an item of a document stands for. -/
  ofItem? : Toml.Item → Option α

namespace RecordReader

variable {α : Type}

/-- The item of the next field. -/
def item? (key : String) : RecordReader (Option Toml.Item) := fun
  | .named entries => some (entries.lookup key, .named entries)
  | .listed [] => some (none, .listed [])
  | .listed (i :: rest) => some (some i, .listed rest)

/-- A field that may be missing. -/
def optional [Written α] (key : String) : RecordReader (Option α) := do
  match ← item? key with
  | none => return none
  | some i => return some (← Written.ofItem? i)

/-- A field with a value that it has where it is missing. -/
def field [Written α] (key : String) (default : α) : RecordReader α := do
  return (← optional key).getD default

/-- A field that must be there. -/
def required [Written α] (key : String) : RecordReader α := do
  match ← optional key with
  | some a => return a
  | none => failure

/-- The record of an item. -/
def ofItem? (r : RecordReader α) (item : Toml.Item) : Option α := do
  return (← r (← Fields.ofItem? item)).1

end RecordReader

/-! ### The values of fields -/

/-- A number of a range from nought. -/
def Toml.Item.numberBelow? (bound : Nat) : Toml.Item → Option Nat
  | .integer n => if 0 ≤ n ∧ n < bound then some n.toNat else none
  | _ => none

/-- A word of a document: a text, or a table with the word as its only key and
nothing in it. -/
def Toml.Item.word? : Toml.Item → Option String
  | .string s => some s
  | .table _ [(key, .table _ [])] => some key
  | .table _ [(key, .array [])] => some key
  | _ => none

instance : Written String where
  ofItem?
    | .string s => some s
    | _ => none

instance : Written Bool where
  ofItem?
    | .boolean b => some b
    | _ => none

instance : Written UInt16 := ⟨fun i => (i.numberBelow? 65536).map UInt16.ofNat⟩

instance : Written UInt32 := ⟨fun i => (i.numberBelow? 4294967296).map UInt32.ofNat⟩

instance : Written Float where
  ofItem?
    | .float x => some x
    | .integer n => some (Decimal.ofInt n)
    | _ => none

instance : Written Duration where
  ofItem?
    | .string s => Duration.read? s
    | _ => none

instance {α : Type} [Written α] : Written (List α) where
  ofItem?
    | .array items => items.mapM Written.ofItem?
    | .tables tables => tables.mapM fun t => Written.ofItem? (.table .header t)
    | _ => none

end Federation
