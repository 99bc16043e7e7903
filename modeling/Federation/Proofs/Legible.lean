/-
Federation/Proofs/Legible.lean

Which encodings can be read.

Of a federation id a frame carries at most 255 bytes. The rest is cut off, and
the cut does not look where one character ends and the next begins. What is left
of an id is text if the cut falls between two characters (`BreaksAt`), and
otherwise it is not, and no reader takes it for a federation id.

So a frame that has an encoding need not be one that can be read. The main
result says which ones can: all but those with an id that is cut within a
character (`Legible`). A reader goes to the end of the encoding in either case,
and no further.
-/
import Mathlib
import Federation.Proofs.RoundTrip

namespace Federation

namespace Frame

variable {federation kept : String}

/-! ### Where an id is cut off -/

/-- Whether `kept` is what a frame carries of the federation id: all of it, or
as much from its start as a frame has bytes for, to the last one. -/
def BreaksAt (federation kept : String) : Prop :=
  (∃ lost, federation = kept ++ lost) ∧
    kept.utf8ByteSize = min maxFederationId federation.utf8ByteSize

theorem federationBytes_eq (federation : String) :
    federationBytes federation
      = federation.toByteArray.extract 0
        (min maxFederationId federation.utf8ByteSize) := by
  rcases Nat.le_total federation.utf8ByteSize maxFederationId with hle | hge
  · rw [federationBytes_of_le hle, Nat.min_eq_right hle, ← String.size_toByteArray,
      ByteArray.extract_zero_size]
  · rw [federationBytes, Nat.min_eq_left hge]

/-- What is left of an id is the text that it breaks off after, or no text. -/
theorem toByteArray_eq_federationBytes_iff :
    kept.toByteArray = federationBytes federation ↔ BreaksAt federation kept := by
  rw [federationBytes_eq]
  constructor
  · intro h
    have hsize := congrArg ByteArray.size h
    rw [ByteArray.size_extract, String.size_toByteArray, String.size_toByteArray,
      Nat.sub_zero, Nat.min_assoc, Nat.min_self] at hsize
    rw [← hsize] at h
    -- the place behind a text that the id starts with lies between two characters
    have hplace : (⟨kept.utf8ByteSize⟩ : String.Pos.Raw).IsValid federation := by
      rw [String.Pos.Raw.isValid_iff_isValidUTF8_extract_zero]
      refine ⟨?_, ?_⟩
      · show kept.utf8ByteSize ≤ federation.utf8ByteSize
        omega
      · show (federation.toByteArray.extract 0 kept.utf8ByteSize).IsValidUTF8
        rw [← h]
        exact kept.isValidUTF8
    obtain ⟨front, lost, rfl, hfront⟩ :=
      String.Pos.Raw.isValid_iff_exists_append.mp hplace
    have hfront : kept.utf8ByteSize = front.utf8ByteSize :=
      congrArg String.Pos.Raw.byteIdx hfront
    have hkept : kept = front := by
      apply String.toByteArray_inj.mp
      rw [h, hfront, String.toByteArray_append]
      exact ByteArray.extract_append_eq_left String.size_toByteArray.symm
    exact ⟨⟨lost, by rw [hkept]⟩, hsize⟩
  · rintro ⟨⟨lost, rfl⟩, hsize⟩
    rw [← hsize, String.toByteArray_append]
    exact (ByteArray.extract_append_eq_left String.size_toByteArray.symm).symm

/-- An id is read as what it breaks off after. -/
theorem readFederation_ok_iff :
    readFederation federation = .ok kept ↔ BreaksAt federation kept := by
  rw [← toByteArray_eq_federationBytes_iff, readFederation]
  constructor
  · intro h
    split at h
    · next s hs =>
      cases h
      exact toByteArray_of_fromUTF8? hs
    · cases h
  · intro h
    rw [← h, fromUTF8?_toByteArray]

/-- If it does not break off after any text, it is refused. -/
theorem readFederation_error (h : ¬ ∃ kept, BreaksAt federation kept) :
    readFederation federation = .error .invalidFederationId := by
  rcases hread : readFederation federation with e | kept
  · unfold readFederation at hread
    split at hread
    · cases hread
    · exact hread.symm
  · exact absurd ⟨kept, readFederation_ok_iff.mp hread⟩ h

/-! ### Frames that can be read -/

/-- Whether the encoding of the frame can be read: there is nothing to stop that
but an id that is cut within a character. -/
def Legible : Frame → Prop
  | joinFederation _ federation => ∃ kept, BreaksAt federation kept
  | joinPeer _ federation => ∃ kept, BreaksAt federation kept
  | _ => True

theorem exists_readBack {f : Frame} (h : f.Legible) : ∃ g, f.readBack = .ok g := by
  cases f with
  | joinFederation federate federation =>
    obtain ⟨kept, hbreaks⟩ := h
    exact ⟨.joinFederation federate kept,
      by rw [readBack, readFederation_ok_iff.mpr hbreaks]; rfl⟩
  | joinPeer federate federation =>
    obtain ⟨kept, hbreaks⟩ := h
    exact ⟨.joinPeer federate kept,
      by rw [readBack, readFederation_ok_iff.mpr hbreaks]; rfl⟩
  | _ => exact ⟨_, rfl⟩

theorem readBack_error {f : Frame} (h : ¬ f.Legible) :
    f.readBack = .error .invalidFederationId := by
  cases f with
  | joinFederation federate federation => rw [readBack, readFederation_error h]; rfl
  | joinPeer federate federation => rw [readBack, readFederation_error h]; rfl
  | _ => exact absurd trivial h

/-- **Which encodings can be read.** Where the encoding of a frame stands in
front of anything, a reader goes to its end and no further. It gives what is
read back of the frame, unless the frame has an id that is cut within a
character, which it refuses. -/
theorem encoding_read_iff_legible (f : Frame) (b rest : ByteArray)
    (h : f.encode = .ok b) :
    (f.Legible → ∃ g c, f.readBack = .ok g ∧
      reader { bytes := b ++ rest } = .ok g c ∧ c.rest = rest) ∧
    (¬ f.Legible → ∃ c,
      reader { bytes := b ++ rest } = .error .invalidFederationId c ∧
        c.rest = rest) := by
  have hread := takes_reader h .empty rest .endOfInput
  rw [Cursor.between_empty] at hread
  constructor
  · intro hlegible
    obtain ⟨g, hg⟩ := exists_readBack hlegible
    rw [hg] at hread
    exact ⟨g, _, hg, hread, Cursor.rest_between _ _ _⟩
  · intro hillegible
    rw [readBack_error hillegible] at hread
    exact ⟨_, hread, Cursor.rest_between _ _ _⟩

/-- An id of one character over and over. -/
def repeated (n : Nat) (c : Char) : String := String.ofList (List.replicate n c)

theorem repeated_add (m n : Nat) (c : Char) :
    repeated (m + n) c = repeated m c ++ repeated n c := by
  rw [repeated, ← List.replicate_append_replicate, String.ofList_append,
    repeated, repeated]

theorem utf8ByteSize_repeated (n : Nat) (c : Char) :
    (repeated n c).utf8ByteSize = n * c.utf8Size := by
  induction n with
  | zero => simp [repeated]
  | succ n ih =>
    have hone : (repeated 1 c).utf8ByteSize = c.utf8Size := by simp [repeated]
    rw [repeated_add, String.utf8ByteSize_append, ih, hone, Nat.succ_mul]

/-- It breaks off after another such, if after any. -/
theorem exists_of_breaksAt_repeated {n : Nat} {c : Char}
    (h : BreaksAt (repeated n c) kept) :
    ∃ k, kept = repeated k c := by
  obtain ⟨⟨lost, hlost⟩, -⟩ := h
  have hlist : kept.toList ++ lost.toList = List.replicate n c := by
    rw [← String.toList_append, ← hlost, repeated, String.toList_ofList]
  refine ⟨kept.toList.length, ?_⟩
  rw [repeated, ← (List.append_eq_replicate_iff.mp hlist).2.1, String.ofList_toList]

/-- Of 86 characters of three bytes each a frame carries 85, which fill it. -/
theorem encoding_read_iff_legible_repeated :
    ∃ b, (joinFederation ⟨3⟩ (repeated 86 '€')).encode = .ok b ∧
      ∃ c, reader { bytes := b } = .ok (joinFederation ⟨3⟩ (repeated 85 '€')) c ∧
        c.rest = .empty := by
  have hbreaks : BreaksAt (repeated 86 '€') (repeated 85 '€') := by
    refine ⟨⟨repeated 1 '€', repeated_add 85 1 '€'⟩, ?_⟩
    rw [utf8ByteSize_repeated, utf8ByteSize_repeated]
    decide
  have hencode : (joinFederation ⟨3⟩ (repeated 86 '€')).encode = .ok _ :=
    encode_ok_iff.mpr ⟨trivial, rfl⟩
  obtain ⟨g, c, hg, hread, hrest⟩ :=
    (encoding_read_iff_legible _ _ .empty hencode).1 ⟨_, hbreaks⟩
  rw [readBack, readFederation_ok_iff.mpr hbreaks] at hg
  cases hg
  rw [ByteArray.append_empty] at hread
  exact ⟨_, hencode, c, hread, hrest⟩

/-- Of 128 characters of two bytes each the last one that a frame carries is
cut, and so the frame is written and cannot be read. -/
theorem split_character_is_unreadable :
    ∃ b, (joinFederation ⟨0⟩ (repeated 128 'é')).encode = .ok b ∧
      ∃ c, reader { bytes := b } = .error .invalidFederationId c := by
  have hillegible : ¬ ∃ kept, BreaksAt (repeated 128 'é') kept := by
    rintro ⟨kept, hbreaks⟩
    obtain ⟨k, rfl⟩ := exists_of_breaksAt_repeated hbreaks
    have hsize := hbreaks.2
    rw [utf8ByteSize_repeated, utf8ByteSize_repeated] at hsize
    -- an even number of bytes would have to be 255
    have hodd : k * 2 = 255 := hsize
    omega
  have hencode : (joinFederation ⟨0⟩ (repeated 128 'é')).encode = .ok _ :=
    encode_ok_iff.mpr ⟨trivial, rfl⟩
  have hread := takes_reader hencode .empty .empty .endOfInput
  rw [ByteArray.append_empty, Cursor.between_empty, readBack,
    readFederation_error hillegible] at hread
  exact ⟨_, hencode, _, hread⟩

end Frame

end Federation
