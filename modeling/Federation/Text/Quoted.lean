/-
Federation/Text/Quoted.lean

Quoted text.

The quoted form of a text, as diagnostics show it: between double quotes, with a
backslash before a double quote and before a backslash, the usual letters for
tab, line feed, carriage return and the zero character, and the code point in
hexadecimal for any other character that would not stand out on its own: one
that cannot be seen, or that merges with the character before it. All other
characters stand for themselves.
-/
import Federation.Text.Extender
import Federation.Text.Unseen

namespace Federation.Quoted

/-- The letter that stands for a character behind a backslash, if there is one. -/
def letter? (c : Char) : Option Char :=
  if c = '"' then some '"'
  else if c = '\\' then some '\\'
  else if c = '\n' then some 'n'
  else if c = '\r' then some 'r'
  else if c = '\t' then some 't'
  else if c.toNat = 0 then some '0'
  else none

/-- Whether a character stands out on its own. Those from the space to the tilde
do. -/
def standsOut (c : Char) : Bool :=
  (' ' ≤ c && c ≤ '~') || !(isUnseen c || isExtender c)

/-- The form of one character inside the quotes. -/
def escape (c : Char) : List Char :=
  match letter? c with
  | some l => ['\\', l]
  | none =>
    if standsOut c then [c]
    else ['\\', 'u', '\x7b'] ++ Nat.toDigits 16 c.toNat ++ ['\x7d']

/-- The quoted form of a text. -/
def encode (s : String) : String :=
  String.ofList ('"' :: s.toList.flatMap escape ++ ['"'])

end Federation.Quoted
