/-
Federation/Text/Scanner.lean

Scanners: programs that take a value from the front of a text, or find none there.

A scanner that finds nothing leaves the text as it was, so that another may try.
`many` repeats a scanner as long as it finds something; the text itself bounds
the repetitions, which is enough if each repetition goes forward.
-/

namespace Federation

/-- A program that takes a value from the front of a text. -/
abbrev Scanner := StateT (List Char) Option

namespace Scanner

variable {α : Type}

/-- The next character, which stays where it is; none at the end. -/
def peek? : Scanner (Option Char) := fun s => some (s.head?, s)

/-- Takes a character that satisfies the condition. -/
def satisfy (p : Char → Bool) : Scanner Char := fun
  | c :: rest => if p c then some (c, rest) else none
  | [] => none

/-- Takes the given character. -/
def char (c : Char) : Scanner Unit := do let _ ← satisfy (· = c)

/-- Takes the given characters. -/
def chars (text : String) : Scanner Unit := text.toList.forM char

/-- Takes all characters up to the first that does not satisfy the condition. -/
def takeWhile (p : Char → Bool) : Scanner (List Char) := fun s => some (s.span p)

/-- Finds nothing. -/
def nothing : Scanner α := fun _ => none

/-- Finds the end of the text. -/
def atEnd : Scanner Unit := fun s => if s.isEmpty then some ((), s) else none

/-- What the scanner finds, if it finds anything. -/
def optional (p : Scanner α) : Scanner (Option α) := fun s =>
  match p s with
  | some (a, rest) => some (some a, rest)
  | none => some (none, s)

/-- What the scanner finds in as many repetitions as the bound has characters,
at most. -/
def manyWithin (p : Scanner α) : (bound : List Char) → Scanner (List α)
  | [] => return []
  | _ :: bound => do
    match ← optional p with
    | none => return []
    | some a => return a :: (← manyWithin p bound)

/-- What the scanner finds in all repetitions. -/
def many (p : Scanner α) : Scanner (List α) := fun s => manyWithin p s s

/-- What the scanner finds in one repetition or more, with the separator between
them. -/
def separated (p : Scanner α) (separator : Scanner Unit) : Scanner (List α) := do
  let first ← p
  let rest ← many (do separator; p)
  return first :: rest

/-- The scanner that takes what the function finds at the front of a text. -/
def ofFunction (f : List Char → Option (α × List Char)) : Scanner α := f

/-- What the scanner makes of a whole text. -/
def run? (p : Scanner α) (text : String) : Option α :=
  ((do let a ← p; atEnd; return a : Scanner α) text.toList).map Prod.fst

end Scanner

end Federation
