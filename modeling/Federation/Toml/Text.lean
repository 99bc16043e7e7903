/-
Federation/Toml/Text.lean

The texts of a document, between quotes.

Between double quotes a backslash introduces an escape; between single quotes
every character stands for itself. Three quotes of either kind enclose a text of
several lines: a line break right after the opening ones is left out, one or two
quotes may stand in the text, also right before the closing ones, and between
double quotes a backslash at the end of a line joins it with the next word. Line
breaks count as one character each. Control characters other than the tab are
refused.
-/
import Federation.Toml.Layout

namespace Federation.Toml.Text

/-- A text and what follows it. -/
abbrev Found := Option (List Char × List Char)

/-- Puts a character in front of a text. -/
def Found.cons (c : Char) (found : Found) : Found :=
  found.map fun (s, rest) => (c :: s, rest)

/-- The value of a hexadecimal digit. -/
def hexValue? (c : Char) : Option Nat :=
  if c.isDigit then some (c.toNat - 48)
  else if 'a' ≤ c ∧ c ≤ 'f' then some (c.toNat - 87)
  else if 'A' ≤ c ∧ c ≤ 'F' then some (c.toNat - 55)
  else none

/-- The character with the given hexadecimal number. -/
def scalar? (digits : List Char) : Option Char := do
  let n ← digits.foldlM (fun n c => return 16 * n + (← hexValue? c)) 0
  if h : n.isValidChar then some (Char.ofNatAux n h) else none

/-- The character of an escape of one letter. -/
def escaped? : Char → Option Char
  | 'b' => some '\x08'
  | 't' => some '\t'
  | 'n' => some '\n'
  | 'f' => some '\x0c'
  | 'r' => some '\r'
  | '"' => some '"'
  | '\\' => some '\\'
  | _ => none

/-- A text up to the closing double quote. -/
def basic : List Char → Found
  | '"' :: rest => some ([], rest)
  | '\\' :: 'u' :: a :: b :: c :: d :: rest =>
    do (basic rest).cons (← scalar? [a, b, c, d])
  | '\\' :: 'U' :: a :: b :: c :: d :: e :: f :: g :: h :: rest => do
    (basic rest).cons (← scalar? [a, b, c, d, e, f, g, h])
  | '\\' :: c :: rest => do (basic rest).cons (← escaped? c)
  | c :: rest => if isPlain c ∧ c ≠ '\\' then (basic rest).cons c else none
  | [] => none

/-- A text up to the closing single quote. -/
def literal : List Char → Found
  | '\'' :: rest => some ([], rest)
  | c :: rest => if isPlain c then (literal rest).cons c else none
  | [] => none

/-- Whether nothing but spaces stands before the end of the line. -/
def endsLine (s : List Char) : Bool :=
  match s.dropWhile isSpace with
  | '\n' :: _ | '\r' :: '\n' :: _ => true
  | _ => false

/-- A text of several lines up to the closing double quotes. While `joining`,
spaces and line breaks are left out. -/
def basicLines (joining : Bool) : List Char → Found
  | '"' :: '"' :: '"' :: '"' :: '"' :: rest => some (['"', '"'], rest)
  | '"' :: '"' :: '"' :: '"' :: rest => some (['"'], rest)
  | '"' :: '"' :: '"' :: rest => some ([], rest)
  | '\\' :: 'u' :: a :: b :: c :: d :: rest => do
    (basicLines false rest).cons (← scalar? [a, b, c, d])
  | '\\' :: 'U' :: a :: b :: c :: d :: e :: f :: g :: h :: rest => do
    (basicLines false rest).cons (← scalar? [a, b, c, d, e, f, g, h])
  | '\r' :: '\n' :: rest =>
    if joining then basicLines true rest else (basicLines false rest).cons '\n'
  | '\\' :: rest =>
    if endsLine rest then basicLines true rest
    else match rest with
      | c :: rest => do (basicLines false rest).cons (← escaped? c)
      | [] => none
  | c :: rest =>
    if joining && (c = '\n' || isSpace c) then basicLines true rest
    else if isPlain c || c = '\n' then (basicLines false rest).cons c
    else none
  | [] => none

/-- A text of several lines up to the closing single quotes. -/
def literalLines : List Char → Found
  | '\'' :: '\'' :: '\'' :: '\'' :: '\'' :: rest => some (['\'', '\''], rest)
  | '\'' :: '\'' :: '\'' :: '\'' :: rest => some (['\''], rest)
  | '\'' :: '\'' :: '\'' :: rest => some ([], rest)
  | '\r' :: '\n' :: rest => (literalLines rest).cons '\n'
  | c :: rest => if isPlain c || c = '\n' then (literalLines rest).cons c else none
  | [] => none

/-- Skips a line break. -/
def afterBreak : List Char → List Char
  | '\n' :: rest => rest
  | '\r' :: '\n' :: rest => rest
  | s => s

/-- A text of one line, with its quotes. -/
def line : Scanner String := .ofFunction fun s =>
  let found := match s with
    | '"' :: rest => basic rest
    | '\'' :: rest => literal rest
    | _ => none
  found.map fun (text, rest) => (String.ofList text, rest)

/-- A text of one line or several, with its quotes. -/
def any : Scanner String := .ofFunction fun s =>
  let found := match s with
    | '"' :: '"' :: '"' :: rest => basicLines false (afterBreak rest)
    | '\'' :: '\'' :: '\'' :: rest => literalLines (afterBreak rest)
    | '"' :: rest => basic rest
    | '\'' :: rest => literal rest
    | _ => none
  found.map fun (text, rest) => (String.ofList text, rest)

end Federation.Toml.Text
