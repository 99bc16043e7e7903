/-
Federation/Bytes/Concat.lean

Blocks of bytes one after another.

`Bytes.concat` puts the blocks of a list one after another. It goes through the
list from the left, so that each block is copied once; `concat_cons` and
`concat_append` say what it means.
-/

namespace Federation.Bytes

/-- Blocks are compared as the core library compares them, whatever else is
imported. -/
instance decidableEq : DecidableEq ByteArray := ByteArray.instDecidableEq

/-- The blocks of a list one after another. -/
def concat (blocks : List ByteArray) : ByteArray :=
  blocks.foldl (· ++ ·) ByteArray.empty

/-- The pass keeps what it has, and appends the blocks to it. -/
theorem foldl_append (blocks : List ByteArray) (b : ByteArray) :
    blocks.foldl (· ++ ·) b = b ++ concat blocks := by
  induction blocks generalizing b with
  | nil => simp [concat]
  | cons x xs ih =>
    rw [concat, List.foldl_cons, List.foldl_cons, ih, ih (ByteArray.empty ++ x),
      ByteArray.empty_append, ByteArray.append_assoc]

@[simp] theorem concat_nil : concat [] = ByteArray.empty := rfl

@[simp] theorem concat_cons (x : ByteArray) (xs : List ByteArray) :
    concat (x :: xs) = x ++ concat xs := by
  rw [concat, List.foldl_cons, foldl_append, ByteArray.empty_append]

/-- Two rows of blocks are put together one behind the other. -/
@[simp] theorem concat_append (xs ys : List ByteArray) :
    concat (xs ++ ys) = concat xs ++ concat ys := by
  induction xs with
  | nil => simp
  | cons x xs ih =>
    rw [List.cons_append, concat_cons, ih, concat_cons, ByteArray.append_assoc]

end Federation.Bytes
