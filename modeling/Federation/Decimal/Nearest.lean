/-
Federation/Decimal/Nearest.lean

The double-precision number nearest to a decimal one.

A double is `q * 2 ^ e` with `q < 2 ^ 53` and `-1074 ≤ e`. The nearest one to a
positive quotient is found in exact arithmetic: `e` is chosen so that `q` has 53
bits, or is -1074 where that would be less, and `q` is the quotient rounded to a
whole number, a tie going to the even one. A value beyond the greatest double
gives infinity.
-/

namespace Federation.Decimal

/-- The whole number nearest to `n / d`; a tie goes to the even one. -/
def roundDiv (n d : Nat) : Nat :=
  let q := n / d
  let r := n % d
  if 2 * r < d ∨ 2 * r = d ∧ q % 2 = 0 then q else q + 1

/-- The greatest `k` with `2 ^ k ≤ n / d`, for positive numbers. -/
def log2Div (n d : Nat) : Int :=
  let k : Int := n.log2 - d.log2
  if d * Nat.pow 2 k.toNat ≤ n * Nat.pow 2 (-k).toNat then k else k - 1

/-- The bits of positive infinity. -/
def infinityBits : Nat := 0x7FF0000000000000

/-- The bits of the double nearest to `n / d`, where `d` is positive. -/
def nearestBits (n d : Nat) : Nat :=
  if n = 0 then 0
  else
    let e : Int := max (log2Div n d - 52) (-1074)
    let q := roundDiv (n * Nat.pow 2 (-e).toNat) (d * Nat.pow 2 e.toNat)
    min ((e + 1074).toNat * Nat.pow 2 52 + q) infinityBits

/-- The bits of the double nearest to `m * 10 ^ e`. Far beyond the range of
doubles the power of ten is not computed. -/
def scientificBits (m : Nat) (e : Int) : Nat :=
  let magnitude : Int := (Nat.toDigits 10 m).length + e
  if m = 0 ∨ magnitude < -326 then 0
  else if magnitude > 310 then infinityBits
  else nearestBits (m * Nat.pow 10 e.toNat) (Nat.pow 10 (-e).toNat)

/-- The double with the given bits and sign. -/
def ofBits (negative : Bool) (bits : Nat) : Float :=
  Float.ofBits (UInt64.ofNat (if negative then bits + Nat.pow 2 63 else bits))

/-- The double nearest to an integer. -/
def ofInt (n : Int) : Float := ofBits (n < 0) (nearestBits n.natAbs 1)

end Federation.Decimal
