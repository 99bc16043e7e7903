/-
Federation/Bytes/LittleEndian.lean

Numbers as bytes, the least significant byte first.

`encode width n` writes the lowest `width` bytes of a natural number and
`decode` reads any number of bytes; `encodeInt` and `decodeInt` do the same with
integers in two's complement. Writing then reading gives the number back if it
fits in the width (`decode_encode`), and reading then writing gives the bytes
back (`encode_decode`).
-/

namespace Federation.LittleEndian

/-- The lowest `width` bytes of `n`, least significant first. -/
def digits : Nat → Nat → List UInt8
  | 0, _ => []
  | width + 1, n => UInt8.ofNat n :: digits width (n / 256)

/-- The number with the given bytes, least significant first. -/
def value : List UInt8 → Nat
  | [] => 0
  | d :: ds => d.toNat + 256 * value ds

/-- A natural number in `width` bytes. -/
def encode (width n : Nat) : ByteArray := (digits width n).toByteArray

/-- The natural number that the bytes stand for. -/
def decode (b : ByteArray) : Nat := value b.data.toList

/-- How many numbers there are in `width` bytes: a power of 256. -/
def capacity (width : Nat) : Nat := Nat.pow 256 width

/-- An integer in `width` bytes, in two's complement. -/
def encodeInt (width : Nat) (n : Int) : ByteArray :=
  encode width (n % capacity width).toNat

/-- The integer that the bytes stand for in two's complement. -/
def decodeInt (b : ByteArray) : Int :=
  let n := decode b
  if 2 * n < capacity b.size then n else n - (capacity b.size : Nat)

/-- A number has as many bytes as its width. -/
theorem length_digits (width n : Nat) : (digits width n).length = width := by
  induction width generalizing n with
  | zero => rfl
  | succ width ih => simp [digits, ih]

/-- A byte keeps the last digit to the base 256. -/
theorem toNat_digit (n : Nat) : (UInt8.ofNat n).toNat = n % 256 :=
  UInt8.toNat_ofNat'

theorem capacity_succ (width : Nat) :
    capacity (width + 1) = 256 * capacity width := Nat.pow_succ'

@[simp] theorem capacity_four : capacity 4 = 4294967296 := rfl

@[simp] theorem capacity_eight : capacity 8 = 18446744073709551616 := rfl

/-- What does not fit in the width is cut off. -/
theorem value_digits (width n : Nat) :
    value (digits width n) = n % capacity width := by
  induction width generalizing n with
  | zero => exact (Nat.mod_one n).symm
  | succ width ih =>
    rw [digits, value, ih, toNat_digit, capacity_succ, Nat.mod_mul]

/-- So many bytes stand for a number below their capacity. -/
theorem value_lt (ds : List UInt8) : value ds < capacity ds.length := by
  induction ds with
  | nil => exact Nat.zero_lt_one
  | cons d ds ih =>
    rw [value, List.length_cons, capacity_succ]
    have := d.toNat_lt
    omega

/-- Bytes are the digits of the number that they stand for. -/
theorem digits_value (ds : List UInt8) : digits ds.length (value ds) = ds := by
  induction ds with
  | nil => rfl
  | cons d ds ih =>
    have hd := d.toNat_lt
    rw [List.length_cons, value, digits,
      show (d.toNat + 256 * value ds) / 256 = value ds by omega, ih]
    congr 1
    apply UInt8.toNat_inj.mp
    rw [toNat_digit]
    omega

theorem toList_encode (width n : Nat) :
    (encode width n).data.toList = digits width n := by
  simp [encode]

@[simp] theorem size_encode (width n : Nat) : (encode width n).size = width := by
  rw [← ByteArray.size_data, ← Array.length_toList, toList_encode, length_digits]

/-- A number that fits in its width is read as it was written. -/
theorem decode_encode {width n : Nat} (h : n < capacity width) :
    decode (encode width n) = n := by
  rw [decode, toList_encode, value_digits, Nat.mod_eq_of_lt h]

/-- Bytes that were read as a number are written again as they stood. -/
theorem encode_decode (b : ByteArray) : encode b.size (decode b) = b := by
  apply ByteArray.ext
  apply Array.toList_inj.mp
  rw [toList_encode, decode, ← ByteArray.size_data, ← Array.length_toList,
    digits_value]

end Federation.LittleEndian
