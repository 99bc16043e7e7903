/-
Federation/Toml/Document.lean

Documents.

A document is a sequence of statements, one to a line: headers, and pairs of a
key and a value. The pairs before the first header belong to the document
itself, all others to the header before them.

Arrays and tables in braces may be nested, but not eighty deep, and a key may
not have eighty parts. `Toml.read?` gives the table of a document, or nothing if
the text is not a document or defines something twice.
-/
import Federation.Toml.Number

namespace Federation.Toml

/-- What nesting of values and number of parts of a key stay below. -/
def depthLimit : Nat := 80

/-- Whether the character may stand in a key without quotes. -/
def isKeyChar (c : Char) : Bool := c.isAlphanum || c = '-' || c = '_'

/-- One part of a key. -/
def keyPart : Scanner String := do
  match ← Scanner.peek? with
  | some '"' | some '\'' => Text.line
  | _ =>
    let cs ← Scanner.takeWhile isKeyChar
    if cs.isEmpty then Scanner.nothing else return String.ofList cs

/-- A key, dotted or not: the parts before the last, and the last. -/
def key : Scanner (List String × String) := do
  let parts ←
      Scanner.separated (do Layout.spaces; let k ← keyPart; Layout.spaces; return k)
    (Scanner.char '.')
  match parts.getLast? with
  | some last =>
    if parts.length < depthLimit then
      return (parts.dropLast, last) else Scanner.nothing
  | none => Scanner.nothing

/-- A key, the sign of equality, and a value. -/
def pair (value : Scanner Item) : Scanner Pair := do
  let (path, key) ← key
  Scanner.char '='
  Layout.spaces
  return ⟨path, key, ← value⟩

/-- A truth value. -/
def boolean : Scanner Item :=
  (do Scanner.chars "true"; return .boolean true) <|>
  (do Scanner.chars "false"; return .boolean false)

/-- A value that holds no others. -/
def simple : Scanner Item := do
  match ← Scanner.peek? with
  | some '"' | some '\'' => .string <$> Text.any
  | some 't' | some 'f' => boolean
  | _ => Moment.any <|> Number.float <|> Number.special <|> Number.integer

/-- An array. A comma may stand behind the last element. -/
def array (value : Scanner Item) : Scanner Item := do
  Scanner.char '['
  let element := do Layout.gap; let v ← value; Layout.gap; return v
  let items ← Scanner.optional (Scanner.separated element (Scanner.char ','))
  match items with
  | none => Layout.gap
  | some _ =>
    let _ ← Scanner.optional (Scanner.char ',')
    Layout.gap
  Scanner.char ']'
  return .array (items.getD [])

/-- A table in braces, on one line. -/
def braces (value : Scanner Item) : Scanner Item := do
  Scanner.char '\x7b'
  let element := do let p ← pair value; Layout.spaces; return p
  let pairs ← Scanner.optional (Scanner.separated element (Scanner.char ','))
  Layout.spaces
  Scanner.char '\x7d'
  match Entries.addPairs [] (pairs.getD []) with
  | some entries => return .table .closed entries
  | none => Scanner.nothing

/-- A value in which so many arrays and tables may be nested. -/
def value : Nat → Scanner Item
  | 0 => simple
  | depth + 1 => do
    match ← Scanner.peek? with
    | some '[' => array (value depth)
    | some '\x7b' => braces (value depth)
    | _ => simple

/-- A line of a document. -/
inductive Statement where
  | blank
  | pair (p : Pair)
  | header (h : Header)

/-- A header with its brackets. -/
def header : Scanner Header := do
  Scanner.char '['
  let inner ← Scanner.optional (Scanner.char '[')
  let (path, key) ← key
  Scanner.char ']'
  if inner.isSome then Scanner.char ']'
  return ⟨inner.isSome, path, key⟩

/-- A statement with the end of its line. -/
def statement : Scanner Statement := do
  match ← Scanner.peek? with
  | none => Scanner.nothing
  | some '#' =>
    Layout.comment
    Layout.lineEnd
    return .blank
  | some '\n' | some '\r' =>
    Layout.newline
    return .blank
  | some '[' =>
    let h ← header
    Layout.endOfStatement
    return .header h
  | _ =>
    let p ← pair (value (depthLimit - 1))
    Layout.endOfStatement
    return .pair p

/-- The statements of a document. A byte order mark may stand in front. -/
def statements : Scanner (List Statement) := do
  let _ ← Scanner.optional (Scanner.char '\uFEFF')
  Layout.spaces
  let all ← Scanner.many do
    let s ← statement
    Layout.spaces
    return s
  Scanner.atEnd
  return all

/-- The pairs before the first header, and each header with its pairs. -/
def sections : List Statement → List Pair × List (Header × List Pair)
  | [] => ([], [])
  | .blank :: rest => sections rest
  | .pair p :: rest =>
    let (pairs, below) := sections rest
    (p :: pairs, below)
  | .header h :: rest =>
    let (pairs, below) := sections rest
    ([], (h, pairs) :: below)

/-- The table of a document. -/
def read? (text : String) : Option Entries := do
  let (all, _) ← statements text.toList
  let (pairs, below) := sections all
  below.foldlM Entries.addSection (← Entries.addPairs [] pairs)

end Federation.Toml
