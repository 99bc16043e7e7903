/-
Federation/Text/Blank.lean

The characters that are white space: those with the property of that name in the
standard of all characters, which are the ASCII ones and the wider and narrower
spaces and line breaks of other scripts.
-/

namespace Federation

/-- Whether a character is white space. -/
def isBlank (c : Char) : Bool :=
  let n := c.toNat
  (9 ≤ n && n ≤ 13) || n == 0x20 || n == 0x85 || n == 0xA0 || n == 0x1680 ||
    (0x2000 ≤ n && n ≤ 0x200A) || n == 0x2028 || n == 0x2029 || n == 0x202F ||
    n == 0x205F || n == 0x3000

end Federation
