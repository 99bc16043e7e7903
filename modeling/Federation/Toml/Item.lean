/-
Federation/Toml/Item.lean

The tree of a TOML document.

A document is a table: a list of keys with their items, no key twice. A table
remembers how it came to be, for that decides what may still be added to it. A
table with a header is complete after its section, but for tables below it; a
table that only the header of a table below it implies may still get a header; a
table made by dotted keys may get more dotted keys, but no header; a table in
braces is closed.

`alterAt` is the one way to change the tree: it walks along a path of keys,
makes the tables that are missing, and refuses to enter what is closed. The
table that is under way is the last one of its array where a path leads through
an array of tables.
-/

namespace Federation.Toml

/-- How a table came to be. -/
inductive TableOrigin where
  /-- It has a header of its own, or is the document. -/
  | header
  /-- A table below it has a header. -/
  | implied
  /-- Dotted keys lead through it. -/
  | dotted
  /-- It stands in braces. -/
  | closed
deriving DecidableEq

/-- A value of a document. -/
inductive Item where
  | string (s : String)
  | integer (n : Int)
  | float (x : Float)
  | boolean (b : Bool)
  /-- A date, a time, or both. -/
  | moment
  | array (items : List Item)
  | table (origin : TableOrigin) (entries : List (String × Item))
  /-- The tables of one array, each of which has a header. -/
  | tables (tables : List (List (String × Item)))

/-- The keys of a table with their items. -/
abbrev Entries := List (String × Item)

/-- A key with the keys before it, and its value. -/
structure Pair where
  path : List String
  key : String
  value : Item

/-- A header, of a table or of the next table of an array. -/
structure Header where
  ofArray : Bool
  path : List String
  key : String

namespace Entries

/-- Sets the item of a key, in its place if the key is there and behind all
others if not. -/
def put (key : String) (item : Item) : Entries → Entries
  | [] => [(key, item)]
  | (k, i) :: rest =>
    if k = key then (key, item) :: rest else (k, i) :: put key item rest

/-- Changes the table at the end of a path by `change`, which is told how the
table came to be. The walk is along `dotted` keys or along those of a header. -/
def alterAt (dotted : Bool) (change : TableOrigin → Entries → Option Entries) :
    List String → TableOrigin → Entries → Option Entries
  | [], origin, entries => change origin entries
  | key :: path, _, entries =>
    match entries.lookup key with
    | none => do
      let origin := if dotted then .dotted else .implied
      return put key
        (.table origin (← alterAt dotted change path origin [])) entries
    | some (.table origin below) =>
      if origin = .closed ∨ (dotted ∧ origin = .header) then none
      else return put key (.table origin
        (← alterAt dotted change path origin below)) entries
    | some (.tables tables) => do
      let last ← alterAt dotted change path .header (← tables.getLast?)
      return put key (.tables (tables.dropLast ++ [last])) entries
    | some _ => none

/-- Adds a pair to the table that is under way. The key must be new, and its
table not one that has been defined in another way. -/
def addPair (entries : Entries) (p : Pair) : Option Entries :=
  alterAt true (fun origin below =>
    if (origin = .dotted) = p.path.isEmpty ∨ (below.lookup p.key).isSome then none
    else some (put p.key p.value below)) p.path .header entries

/-- The table of some pairs, added to what is there. -/
def addPairs (entries : Entries) (pairs : List Pair) : Option Entries :=
  pairs.foldlM addPair entries

/-- Adds a section to a document: the table that its header names. -/
def addSection (entries : Entries) (s : Header × List Pair) : Option Entries :=
  let (header, pairs) := s
  alterAt false (fun _ below =>
    match header.ofArray, below.lookup header.key with
    | true, none => do return put header.key (.tables [← addPairs [] pairs]) below
    | true, some (.tables tables) => do
      return put header.key (.tables (tables ++ [← addPairs [] pairs])) below
    | false, none =>
      do return put header.key (.table .header (← addPairs [] pairs)) below
    | false, some (.table .implied there) => do
      return put header.key (.table .header (← addPairs there pairs)) below
    | _, _ => none) header.path .header entries

end Entries

end Federation.Toml
