/-
Federation/Toml/Layout.lean

What stands between the words of a document: spaces, comments and the ends of lines.

A line ends with a line feed, which a carriage return may precede. A comment
goes up to the end of its line and holds no control characters but the tab.
-/
import Federation.Text.Scanner

namespace Federation.Toml

/-- Whether the character separates words on a line. -/
def isSpace (c : Char) : Bool := c = ' ' || c = '\t'

/-- Whether the character may stand in a comment or for itself in a text of one
line: any but the control characters. -/
def isPlain (c : Char) : Bool := c = '\t' || (0x20 ≤ c.toNat && c.toNat ≠ 0x7F)

namespace Layout

/-- Skips spaces. -/
def spaces : Scanner Unit := do let _ ← Scanner.takeWhile isSpace

/-- Takes the end of a line. -/
def newline : Scanner Unit := Scanner.char '\n' <|> Scanner.chars "\r\n"

/-- Takes a comment, up to the end of its line. -/
def comment : Scanner Unit := do
  Scanner.char '#'
  let _ ← Scanner.takeWhile isPlain

/-- Takes the end of a line or of the text. -/
def lineEnd : Scanner Unit := newline <|> Scanner.atEnd

/-- Takes what may stand between the last word of a line and its end, and the
end. -/
def endOfStatement : Scanner Unit := do
  spaces
  let _ ← Scanner.optional comment
  lineEnd

/-- Skips spaces, comments and ends of lines. -/
def gap : Scanner Unit := do
  spaces
  let _ ← Scanner.many (do let _ ← Scanner.optional comment; newline; spaces)

end Layout

end Federation.Toml
