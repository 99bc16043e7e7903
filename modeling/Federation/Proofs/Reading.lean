/-
Federation/Proofs/Reading.lean

How far a source is read.

Whoever takes the frames of a source one after another stops where a read fails,
or at a frame that is refused. `Stops` says which frames were taken before, and
why there were no more (`Stop`). Every source is read up to such a stop
(`exists_stops`), by induction on its size.

The bytes of a connection may break off anywhere. What is read of the bytes that
are left is what would have been read of all, or some of these frames and then
the end of the input (`Stops.cut`). This rests on two facts about what frames
are read with: a frame is read from its own bytes
(`Reader.Made.selfDelimiting`), and so is everything that is found wrong with it
(`Reader.Made.persists`), so what is wrong stays wrong, whatever follows.
-/
import Mathlib
import Federation.Proofs.Truncation
import Federation.Frame.Source

namespace Federation

/-! ### What is found wrong -/

namespace Reader

variable {α : Type} {r : Reader α}

/-- Whether a failure of the reader is the end of the block, or something that
is wrong with the bytes that are there, whatever follows them. -/
def Persists (r : Reader α) : Prop :=
  ∀ before a ending e c, r (.between before a ending) = .error e c →
    e = .io ending ∨
      e.isDisconnect = false ∧
        ∀ b, ∃ c', r (.between before (a ++ b) ending) = .error e c'

theorem persists_take (n : Nat) : Persists (take n) := by
  intro before a ending e c hread
  by_cases hn : a.size < n
  · rw [take_of_remaining_lt (by rwa [Cursor.remaining_between])] at hread
    cases hread
    exact .inl rfl
  · rw [take, if_pos (by rw [Cursor.remaining_between]; exact Nat.le_of_not_lt hn)]
      at hread
    cases hread

/-- What is made of parts that fail in one of these ways fails in one of them. -/
theorem Made.persists (h : Made r) : Persists r := by
  induction h with
  | pure x => exact fun before a ending e c hread => by cases hread
  | throw e he =>
    intro before a ending e' c hread
    cases hread
    exact .inr ⟨he, fun b => ⟨_, rfl⟩⟩
  | take n => exact persists_take n
  | @bind α β r k hr hk ihr ihk =>
    intro before a ending e c hread
    rcases hfirst : r (.between before a ending) with ⟨x, c₁⟩ | ⟨e', c₁⟩
    · -- the first reader has taken its bytes, and takes the same with more
      -- bytes at the end
      obtain ⟨taken, rest, rfl, rfl, htakes, -⟩ :=
        hr.selfDelimiting _ _ _ _ _ hfirst
      rw [htakes.bind_between] at hread
      rcases ihk x _ _ _ _ _ hread with hend | ⟨he, hmore⟩
      · exact .inl hend
      · refine .inr ⟨he, fun b => ?_⟩
        rw [ByteArray.append_assoc, htakes.bind_between]
        exact hmore b
    · -- the first reader fails, and the second is not asked
      cases (bind_of_error hfirst).symm.trans hread
      rcases ihr _ _ _ _ _ hfirst with hend | ⟨he, hmore⟩
      · exact .inl hend
      · refine .inr ⟨he, fun b => ?_⟩
        obtain ⟨c', hc'⟩ := hmore b
        exact ⟨c', bind_of_error hc'⟩

end Reader

namespace Cursor

variable {before a : ByteArray} {ending : IoError}

theorem next_eq_ok_iff {c c' : Cursor} {f : Frame} :
    c.next = (.ok f, c') ↔ Frame.reader c = .ok f c' := by
  rw [next]
  cases Frame.reader c <;> simp

theorem next_eq_error_iff {c c' : Cursor} {e : FrameError} :
    c.next = (.error e, c') ↔ Frame.reader c = .error e c' := by
  rw [next]
  cases Frame.reader c <;> simp

/-- What the next read comes to does not depend on what follows, unless it is
the end of the block. -/
theorem next_append_cases (before a : ByteArray) (ending : IoError) :
    (∃ c, (between before a ending).next = (.error (.io ending), c)) ∨
    (∃ e c,
      e.isDisconnect = false ∧ (between before a ending).next = (.error e, c) ∧
      ∀ b, ∃ c', (between before (a ++ b) ending).next = (.error e, c')) ∨
    ∃ f taken rest, a = taken ++ rest ∧
      (between before a ending).next
        = (.ok f, between (before ++ taken) rest ending) ∧
      ∀ b, (between before (a ++ b) ending).next
        = (.ok f, between (before ++ taken) (rest ++ b) ending) := by
  rcases hread : Frame.reader (between before a ending) with ⟨f, c⟩ | ⟨e, c⟩
  · obtain ⟨taken, rest, rfl, rfl, htakes, -⟩ :=
      Frame.made_reader.selfDelimiting _ _ _ _ _ hread
    refine .inr (.inr ⟨f, taken, rest, rfl, next_eq_ok_iff.mpr hread,
      fun b => next_eq_ok_iff.mpr ?_⟩)
    rw [ByteArray.append_assoc]
    exact htakes before (rest ++ b) ending
  · rcases Frame.made_reader.persists _ _ _ _ _ hread with rfl | ⟨he, hmore⟩
    · exact .inl ⟨c, next_eq_error_iff.mpr hread⟩
    · refine .inr (.inl ⟨e, c, he, next_eq_error_iff.mpr hread, fun b => ?_⟩)
      obtain ⟨c', hc'⟩ := hmore b
      exact ⟨c', next_eq_error_iff.mpr hc'⟩

end Cursor

/-! ### Up to a stop -/

/-- Why no more frames are taken from a source. -/
inductive Stop where
  /-- The next read fails. -/
  | unread (e : FrameError)
  /-- The next frame is refused, in these words. -/
  | refused (detail : String)
deriving DecidableEq

/-- The frames that are taken from a source before the stop, if it is known what
is refused. -/
inductive Stops {κ : Type} [FrameSource κ] (refuses : Frame → String → Prop) :
    κ → List Frame → Stop → Prop
  | unread {s s' : κ} {e : FrameError} (h : FrameSource.next s = (.error e, s')) :
      Stops refuses s [] (.unread e)
  | refused {s s' : κ} {f : Frame} {detail : String}
      (h : FrameSource.next s = (.ok f, s')) (hf : refuses f detail) :
      Stops refuses s [] (.refused detail)
  | taken {s s' : κ} {f : Frame} {frames : List Frame} {stop : Stop}
      (h : FrameSource.next s = (.ok f, s')) (hf : ∀ detail, ¬ refuses f detail)
      (hrest : Stops refuses s' frames stop) :
      Stops refuses s (f :: frames) stop

variable {refuses : Frame → String → Prop} {frames : List Frame} {stop : Stop}

/-- Every source is read up to a stop. -/
theorem exists_stops {κ : Type} [FrameSource κ]
    (refuses : Frame → String → Prop) (s : κ) :
    ∃ frames stop, Stops refuses s frames stop := by
  induction hsize : FrameSource.size s using Nat.strong_induction_on
    generalizing s with
  | _ size ih =>
    rcases hnext : FrameSource.next s with ⟨e | f, s'⟩
    · exact ⟨[], _, .unread hnext⟩
    · by_cases hf : ∃ detail, refuses f detail
      · obtain ⟨detail, hrefuses⟩ := hf
        exact ⟨[], _, .refused hnext hrefuses⟩
      · have hlt : FrameSource.size s' < size :=
          hsize ▸ FrameSource.size_lt_of_next hnext
        obtain ⟨frames, stop, hrest⟩ := ih _ hlt s' rfl
        exact ⟨f :: frames, stop, .taken hnext (not_exists.mp hf) hrest⟩

/-- No frame that is taken is refused. -/
theorem Stops.accepted {κ : Type} [FrameSource κ] {s : κ}
    (h : Stops refuses s frames stop) :
    ∀ f ∈ frames, ∀ detail, ¬ refuses f detail := by
  induction h with
  | unread => exact List.forall_mem_nil _
  | refused => exact List.forall_mem_nil _
  | taken _ hf _ ih => exact List.forall_mem_cons.mpr ⟨hf, ih⟩

/-! ### Bytes that break off -/

/-- Where some bytes are cut off at the end, the same frames are taken up to the
same stop, or some of them and then there is no more to read. -/
theorem Stops.cut {before a b : ByteArray} {ending : IoError}
    (h : Stops refuses (Cursor.between before (a ++ b) ending) frames stop) :
    Stops refuses (Cursor.between before a ending) frames stop ∨
      ∃ frames', frames' <+: frames ∧
        Stops refuses (Cursor.between before a ending) frames'
          (.unread (.io ending)) := by
  generalize hc : Cursor.between before (a ++ b) ending = c at h
  induction h generalizing before a with
  | @unread s s' e hnext =>
    subst hc
    -- without the rest the next frame breaks off, or it is read as before
    rcases Cursor.next_append_cases before a ending with
      ⟨c, hend⟩ | ⟨e', c, -, hread, hmore⟩ | ⟨f, taken, rest, -, -, hmore⟩
    · exact .inr ⟨[], List.nil_prefix, .unread hend⟩
    · obtain ⟨c', hc'⟩ := hmore b
      cases hnext.symm.trans hc'
      exact .inl (.unread hread)
    · cases hnext.symm.trans (hmore b)
  | @refused s s' f detail hnext hf =>
    subst hc
    rcases Cursor.next_append_cases before a ending with
      ⟨c, hend⟩ | ⟨e', c, -, -, hmore⟩ | ⟨f', taken, rest, -, hread, hmore⟩
    · exact .inr ⟨[], List.nil_prefix, .unread hend⟩
    · obtain ⟨c', hc'⟩ := hmore b
      cases hnext.symm.trans hc'
    · cases hnext.symm.trans (hmore b)
      exact .inl (.refused hread hf)
  | @taken s s' f frames stop hnext hf hrest ih =>
    subst hc
    rcases Cursor.next_append_cases before a ending with
      ⟨c, hend⟩ | ⟨e', c, -, -, hmore⟩ | ⟨f', taken, rest, -, hread, hmore⟩
    · exact .inr ⟨[], List.nil_prefix, .unread hend⟩
    · obtain ⟨c', hc'⟩ := hmore b
      cases hnext.symm.trans hc'
    · cases hnext.symm.trans (hmore b)
      rcases ih rfl with hsame | ⟨frames', hprefix, hcut⟩
      · exact .inl (.taken hread hf hsame)
      · exact .inr
          ⟨f :: frames', (List.prefix_cons_inj f).mpr hprefix, .taken hread hf hcut⟩

/-- Where more bytes follow, the same frames are taken up to the same stop,
unless it was that there is no more to read. -/
theorem Stops.append {before a : ByteArray} {ending : IoError}
    (h : Stops refuses (Cursor.between before a ending) frames stop)
    (hstop : stop ≠ .unread (.io ending)) (b : ByteArray) :
    Stops refuses (Cursor.between before (a ++ b) ending) frames stop := by
  generalize hc : Cursor.between before a ending = c at h
  induction h generalizing before a with
  | unread hnext =>
    subst hc
    -- with the rest behind it the next frame is read as before, unless it broke off
    rcases Cursor.next_append_cases before a ending with
      ⟨c, hend⟩ | ⟨e', c, -, hread, hmore⟩ | ⟨f, taken, rest, -, hread, -⟩
    · cases hnext.symm.trans hend
      exact absurd rfl hstop
    · cases hnext.symm.trans hread
      obtain ⟨c', hc'⟩ := hmore b
      exact .unread hc'
    · cases hnext.symm.trans hread
  | refused hnext hf =>
    subst hc
    rcases Cursor.next_append_cases before a ending with
      ⟨c, hend⟩ | ⟨e', c, -, hread, -⟩ | ⟨f, taken, rest, -, hread, hmore⟩
    · cases hnext.symm.trans hend
    · cases hnext.symm.trans hread
    · cases hnext.symm.trans hread
      exact .refused (hmore b) hf
  | taken hnext hf _ ih =>
    subst hc
    rcases Cursor.next_append_cases before a ending with
      ⟨c, hend⟩ | ⟨e', c, -, hread, -⟩ | ⟨f, taken, rest, -, hread, hmore⟩
    · cases hnext.symm.trans hend
    · cases hnext.symm.trans hread
    · cases hnext.symm.trans hread
      exact .taken (hmore b) hf (ih hstop rfl)

/-- The read that fails at the end of the input is the only one that means that
the other side went away. -/
theorem Stops.isDisconnect_iff {before a : ByteArray} {e : FrameError}
    (h : Stops refuses (Cursor.between before a .endOfInput) frames (.unread e)) :
    e.isDisconnect = true ↔ e = .io .endOfInput := by
  generalize hc : Cursor.between before a .endOfInput = c at h
  generalize hstop : Stop.unread e = stop at h
  induction h generalizing before a with
  | unread hnext =>
    cases hstop
    subst hc
    rcases Cursor.next_append_cases before a .endOfInput with
      ⟨c, hend⟩ | ⟨e', c, he, hread, -⟩ | ⟨f, taken, rest, -, hread, -⟩
    · cases hnext.symm.trans hend
      exact iff_of_true rfl rfl
    · -- a frame that cannot be read is not the end of the input
      cases hnext.symm.trans hread
      refine iff_of_false (by rw [he]; exact Bool.false_ne_true) ?_
      rintro rfl
      cases he
    · cases hnext.symm.trans hread
  | refused => cases hstop
  | taken hnext _ _ ih =>
    subst hc
    rcases Cursor.next_append_cases before a .endOfInput with
      ⟨c, hend⟩ | ⟨e', c, -, hread, -⟩ | ⟨f, taken, rest, -, hread, -⟩
    · cases hnext.symm.trans hend
    · cases hnext.symm.trans hread
    · cases hnext.symm.trans hread
      exact ih rfl hstop

/-! ### A block of bytes -/

/-- The frames that are taken from a block of bytes, and why there are no more. -/
def TakenFrom (refuses : Frame → String → Prop) (bytes : ByteArray)
    (frames : List Frame) (stop : Stop) : Prop :=
  Stops refuses ({ bytes } : Cursor) frames stop

namespace TakenFrom

variable {bytes : ByteArray}

theorem iff_stops_between : TakenFrom refuses bytes frames stop ↔
    Stops refuses (Cursor.between .empty bytes .endOfInput) frames stop := by
  rw [Cursor.between_empty]
  rfl

theorem isDisconnect_iff {e : FrameError}
    (h : TakenFrom refuses bytes frames (.unread e)) :
    e.isDisconnect = true ↔ e = .io .endOfInput :=
  (iff_stops_between.mp h).isDisconnect_iff

theorem append (h : TakenFrom refuses bytes frames stop)
    (hstop : stop ≠ .unread (.io .endOfInput)) (more : ByteArray) :
    TakenFrom refuses (bytes ++ more) frames stop :=
  iff_stops_between.mpr ((iff_stops_between.mp h).append hstop more)

theorem extract (h : TakenFrom refuses bytes frames stop) (count : Nat) :
    TakenFrom refuses (bytes.extract 0 count) frames stop ∨
      ∃ earlier, earlier <+: frames ∧
        TakenFrom refuses (bytes.extract 0 count) earlier
          (.unread (.io .endOfInput)) := by
  have hwhole :
      bytes.extract 0 count ++ bytes.extract count bytes.size = bytes := by
    rw [ByteArray.extract_append_extract, Nat.zero_min,
      ByteArray.extract_zero_max_size]
  simp only [iff_stops_between]
  rw [← hwhole, iff_stops_between] at h
  exact h.cut

end TakenFrom

end Federation
