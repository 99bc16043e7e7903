/-
Federation/Toml/Number.lean

The numbers, dates and times of a document.

Digits may be parted by single underscores. A whole number is decimal, and then
may have a sign but no leading zeros, or hexadecimal, octal or binary; it must
fit in 64 bits with a sign. A number with a fraction or an exponent is the
nearest double, and must not be beyond the greatest; beyond the least one it is
negative infinity.

Dates and times are checked and not kept: nothing in this program takes one.
-/
import Federation.Decimal.Nearest
import Federation.Toml.Item
import Federation.Toml.Text

namespace Federation.Toml

namespace Number

/-- Further digits, each after an underscore or not. -/
def moreDigits (p : Char → Bool) : List Char → List Char × List Char
  | '_' :: d :: rest =>
    if p d then
      let (ds, rest) := moreDigits p rest
      (d :: ds, rest)
    else ([], '_' :: d :: rest)
  | d :: rest =>
    if p d then
      let (ds, rest) := moreDigits p rest
      (d :: ds, rest)
    else ([], d :: rest)
  | [] => ([], [])

/-- One digit or more. -/
def digits (p : Char → Bool) : Scanner (List Char) := do
  let d ← Scanner.satisfy p
  let ds ← .ofFunction fun s => some (moreDigits p s)
  return d :: ds

/-- The number with the given digits. -/
def value (base : Nat) (ds : List Char) : Nat :=
  ds.foldl (fun n d => base * n + (Text.hexValue? d).getD 0) 0

/-- A sign; the result says whether it is a minus. -/
def sign : Scanner Bool := do
  match ← Scanner.optional (Scanner.satisfy fun c => c = '+' || c = '-') with
  | some c => return c = '-'
  | none => return false

/-- The digits of a decimal whole number: nought, or no nought in front. -/
def wholeDigits : Scanner (List Char) := do
  match ← Scanner.peek? with
  | some '0' =>
    Scanner.char '0'
    return ['0']
  | _ => digits Char.isDigit

/-- A whole number that fits in 64 bits. -/
def inRange (n : Int) : Scanner Item :=
  if -9223372036854775808 ≤ n ∧ n ≤ 9223372036854775807 then return .integer n
  else Scanner.nothing

/-- A whole number of another base than ten, behind the letters that announce it. -/
def based (letters : String) (base : Nat) (p : Char → Bool) : Scanner Item := do
  Scanner.chars letters
  inRange (value base (← digits p))

/-- A decimal whole number. -/
def whole : Scanner Item := do
  let negative ← sign
  let n : Int := value 10 (← wholeDigits)
  inRange (if negative then -n else n)

/-- A whole number. -/
def integer : Scanner Item :=
  based "0x" 16 (fun c => (Text.hexValue? c).isSome) <|>
  based "0o" 8 (fun c => '0' ≤ c ∧ c ≤ '7') <|>
  based "0b" 2 (fun c => c = '0' ∨ c = '1') <|>
  whole

/-- The digits behind the point. -/
def fraction : Scanner (List Char) := do
  Scanner.char '.'
  digits Char.isDigit

/-- The exponent of ten. -/
def exponent : Scanner Int := do
  let _ ← Scanner.satisfy fun c => c = 'e' || c = 'E'
  let negative ← sign
  let n : Int := value 10 (← digits Char.isDigit)
  return if negative then -n else n

/-- A number with a fraction, an exponent, or both. -/
def float : Scanner Item := do
  let negative ← sign
  let w ← wholeDigits
  let f ← Scanner.optional fraction
  let e ← Scanner.optional exponent
  if f.isNone && e.isNone then Scanner.nothing
  let f := f.getD []
  let bits := Decimal.scientificBits (value 10 (w ++ f)) (e.getD 0 - f.length)
  if bits = Decimal.infinityBits && !negative then Scanner.nothing
  return .float (Decimal.ofBits negative bits)

/-- Infinity, or what is not a number. -/
def special : Scanner Item := do
  let negative ← sign
  match ← Scanner.peek? with
  | some 'i' =>
    Scanner.chars "inf"
    return .float (Decimal.ofBits negative Decimal.infinityBits)
  | _ =>
    Scanner.chars "nan"
    return .float (Decimal.ofBits negative 0x7FF8000000000000)

end Number

namespace Moment

/-- So many digits, with a value between two bounds. -/
def number (count low high : Nat) : Scanner Nat := do
  let ds ← (List.replicate count ()).mapM fun _ => Scanner.satisfy Char.isDigit
  let n := Number.value 10 ds
  if low ≤ n ∧ n ≤ high then return n else Scanner.nothing

/-- The number of days of a month. -/
def daysIn (year month : Nat) : Nat :=
  if month = 2 then
    if year % 4 = 0 ∧ (year % 100 ≠ 0 ∨ year % 400 = 0) then 29 else 28
  else if month = 4 ∨ month = 6 ∨ month = 9 ∨ month = 11 then 30
  else 31

/-- A date. -/
def date : Scanner Unit := do
  let year ← number 4 0 9999
  Scanner.char '-'
  let month ← number 2 1 12
  Scanner.char '-'
  let _ ← number 2 1 (daysIn year month)

/-- A time of day, with or without a fraction of a second. -/
def time : Scanner Unit := do
  let _ ← number 2 0 23
  Scanner.char ':'
  let _ ← number 2 0 59
  Scanner.char ':'
  let _ ← number 2 0 60
  let _ ← Scanner.optional do
    Scanner.char '.'
    let _ ← Scanner.satisfy Char.isDigit
    let _ ← Scanner.takeWhile Char.isDigit

/-- The distance from universal time. -/
def offset : Scanner Unit := do
  match ← Scanner.satisfy fun c => c = 'Z' || c = 'z' || c = '+' || c = '-' with
  | 'Z' | 'z' => return
  | _ =>
    let _ ← number 2 0 23
    Scanner.char ':'
    let _ ← number 2 0 59

/-- A date, a time, or a date and a time with or without a distance. -/
def any : Scanner Item := do
  (do
    date
    let _ ← Scanner.optional do
      let _ ← Scanner.satisfy fun c => c = 'T' || c = 't' || c = ' '
      time
      Scanner.optional offset) <|> time
  return .moment

end Moment

end Federation.Toml
