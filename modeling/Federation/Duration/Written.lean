/-
Federation/Duration/Written.lean

Durations as people write them: `1h 30m`, `250ms`, `1.5 s`.

A written duration is a sequence of spans, each a number and a unit, and stands
for their sum. Spans need nothing between them, and white space may stand
before, within and after a number. The text `0` alone needs no unit.

A unit is reckoned in nanoseconds or in seconds, and the reckoning of each span
must fit in 64 bits. Whole units are reckoned in nanoseconds below the second,
and in seconds from there on. The fraction of a unit is reckoned by itself, in
nanoseconds up to the minute and in seconds above, and must come to a whole
number of them; a nanosecond has no fractions.

`render` writes a duration with the greatest units first and no fractions, and
names no unit of which there is none.
-/
import Federation.Duration
import Federation.Text.Blank
import Federation.Text.Scanner

namespace Federation

/-- A unit of time. -/
inductive TimeUnit where
  | nanosecond
  | microsecond
  | millisecond
  | second
  | minute
  | hour
  | day
  | week
  | month
  | year
deriving DecidableEq

namespace TimeUnit

/-- The length of the unit in nanoseconds. A month and a year are the mean ones
of the calendar. -/
def nanos : TimeUnit → Nat
  | nanosecond => 1
  | microsecond => 1000
  | millisecond => 1000000
  | second => 1000000000
  | minute => 60000000000
  | hour => 3600000000000
  | day => 86400000000000
  | week => 604800000000000
  | month => 2630016000000000
  | year => 31557600000000000

/-- The unit of a name. Case matters: `m` is a minute, and `M` a month. -/
def ofName? : String → Option TimeUnit
  | "nanos" | "nsec" | "ns" => some nanosecond
  | "usec" | "us" | "µs" => some microsecond
  | "millis" | "msec" | "ms" => some millisecond
  | "seconds" | "second" | "secs" | "sec" | "s" => some second
  | "minutes" | "minute" | "mins" | "min" | "m" => some minute
  | "hours" | "hour" | "hrs" | "hr" | "h" => some hour
  | "days" | "day" | "d" => some day
  | "weeks" | "week" | "wks" | "wk" | "w" => some week
  | "months" | "month" | "M" => some month
  | "years" | "year" | "yrs" | "yr" | "y" => some year
  | _ => none

/-- In which unit whole units are reckoned. -/
def wholeReckoning : TimeUnit → TimeUnit
  | nanosecond | microsecond | millisecond => nanosecond
  | _ => second

/-- In which unit fractions of a unit are reckoned. -/
def fractionReckoning : TimeUnit → TimeUnit
  | nanosecond | microsecond | millisecond | second | minute => nanosecond
  | _ => second

end TimeUnit

/-- A number of units of time, as it is written. -/
structure WrittenSpan where
  whole : List Char
  /-- The digits behind the point, if there is one. -/
  fraction : Option (List Char)
  unit : TimeUnit

namespace WrittenSpan

/-- The number of some decimal digits, if 64 bits hold it. -/
def number? (digits : List Char) : Option Nat :=
  let n := digits.foldl (fun n c => 10 * n + (c.toNat - 48)) 0
  if n < UInt64.size then some n else none

/-- So many units, reckoned in another one. -/
def reckoned? (n : Nat) (unit reckoning : TimeUnit) : Option Nat :=
  let count := n * (unit.nanos / reckoning.nanos)
  if count < UInt64.size then some count else none

/-- Adds some units to a duration. What is reckoned in nanoseconds is added to
those beyond the whole seconds, and must not go beyond 64 bits there either. -/
def add? (d : Duration) (count : Nat) : TimeUnit → Option Duration
  | .nanosecond =>
    if d.subsecond + count < UInt64.size then
      Duration.ofNanos? (d.nanos + count) else none
  | reckoning => Duration.ofNanos? (d.nanos + count * reckoning.nanos)

/-- Adds the whole units of a span to a duration. -/
def addWhole? (s : WrittenSpan) (d : Duration) : Option Duration := do
  let reckoning := s.unit.wholeReckoning
  add? d (← reckoned? (← number? s.whole) s.unit reckoning) reckoning

/-- Adds a fraction of a unit to a duration. -/
def addFraction? (unit : TimeUnit) (digits : List Char) (d : Duration) :
    Option Duration := do
  let reckoning := unit.fractionReckoning
  let parts := Nat.pow 10 digits.length
  let count ← reckoned? (← number? digits) unit reckoning
  if unit = .nanosecond ∨ UInt64.size ≤ parts ∨ count % parts ≠ 0 then none
  else add? d (count / parts) reckoning

/-- Adds a span to a duration. -/
def addTo? (d : Duration) (s : WrittenSpan) : Option Duration := do
  let d ← s.addWhole? d
  match s.fraction with
  | none => return d
  | some digits => addFraction? s.unit digits d

/-- Whether the character may stand in the name of a unit. -/
def isUnitChar (c : Char) : Bool := c.isAlpha || c = 'µ'

/-- Digits with white space within and behind them. -/
def digits : Scanner (List Char) := do
  let cs ← Scanner.takeWhile fun c => c.isDigit || isBlank c
  let ds := cs.filter Char.isDigit
  if ds.isEmpty then Scanner.nothing else return ds

/-- A span. -/
def scanner : Scanner WrittenSpan := do
  let whole ← digits
  let fraction ← Scanner.optional (do Scanner.char '.'; digits)
  let name ← Scanner.takeWhile isUnitChar
  match TimeUnit.ofName? (String.ofList name) with
  | some unit => return ⟨whole, fraction, unit⟩
  | none => Scanner.nothing

end WrittenSpan

namespace Duration

/-- The duration that a text stands for. -/
def read? (text : String) : Option Duration :=
  if text = "0" then some zero
  else do
    let spans ← Scanner.run? (do
      let spans ← Scanner.many WrittenSpan.scanner
      let _ ← Scanner.takeWhile isBlank
      return spans) text
    if spans.isEmpty then none else spans.foldlM WrittenSpan.addTo? zero

/-- A number of units as it is written, or nothing if there are none. -/
def renderUnits (n : Nat) (name : String) : Option String :=
  if n = 0 then none else some (toString n ++ name)

/-- A number of units whose name tells one from several. -/
def renderWords (n : Nat) (name : String) : Option String :=
  renderUnits n (if n = 1 then name else name ++ "s")

/-- The duration in words: the greatest units first, no unit of which there is
none, and `0s` for no time at all. -/
def render (d : Duration) : String :=
  let years := d.seconds / 31557600
  let inYear := d.seconds % 31557600
  let months := inYear / 2630016
  let inMonth := inYear % 2630016
  let days := inMonth / 86400
  let inDay := inMonth % 86400
  let parts := [
    renderWords years "year",
    renderWords months "month",
    renderWords days "day",
    renderUnits (inDay / 3600) "h",
    renderUnits (inDay / 60 % 60) "m",
    renderUnits (inDay % 60) "s",
    renderUnits (d.subsecond / 1000000) "ms",
    renderUnits (d.subsecond / 1000 % 1000) "us",
    renderUnits (d.subsecond % 1000) "ns"]
  if d.isZero then "0s" else " ".intercalate (parts.filterMap id)

end Duration

end Federation
