/-
Federation/Proofs/Marks.lean

What the board says after some marks.

To the board a message and a notice of absence are marks: a tag, and whether a
message arrived there. After one mark more (`present_mark_iff`,
`unknown_mark_iff`)

* a tag is present if it was, or if it is the tag of a message;
* a tag is unknown if it was, and lies behind the mark.

All other tags are absent. The second rule holds even for an input of which
nothing was heard, though the blank record says a little more than nothing: it
knows the least tag. Marks for one input add up accordingly (`Took`), and no
mark for one input is seen at another.
-/
import Mathlib
import Federation.Board.Basic
import Federation.Proofs.TagOrder

namespace Federation

/-! ### One record -/

namespace PortRecord

variable {r : PortRecord} {g t : Tag}

theorem status_eq_present_iff : r.status g = .present ↔ g ∈ r.present := by
  unfold status
  split
  · next h => exact iff_of_true rfl h
  · next h => split <;> exact iff_of_false nofun h

theorem status_eq_unknown_iff :
    r.status g = .unknown ↔ g ∉ r.present ∧ ¬ g ≤ r.knownThrough := by
  unfold status
  split
  · next h => exact iff_of_false nofun fun hn => hn.1 h
  · next h =>
    split
    · next hle => exact iff_of_false nofun fun hn => hn.2 hle
    · next hle => exact iff_of_true rfl ⟨h, hle⟩

/-- Takes a mark: a message at a tag, or a notice of absence through a tag. -/
def mark (r : PortRecord) (tag : Tag) (message : Bool) : PortRecord :=
  (if message then r.insert tag else r).advance tag

theorem mem_present_mark_iff {message : Bool} :
    g ∈ (r.mark t message).present ↔ g ∈ r.present ∨ message = true ∧ g = t := by
  cases message <;> simp [mark]

theorem le_knownThrough_mark_iff {message : Bool} :
    g ≤ (r.mark t message).knownThrough ↔ g ≤ r.knownThrough ∨ g ≤ t := by
  cases message <;> simp [mark, Tag.le_later_iff]

theorem status_mark_eq_unknown_iff {message : Bool} :
    (r.mark t message).status g = .unknown ↔ r.status g = .unknown ∧ ¬ g ≤ t := by
  rw [status_eq_unknown_iff, status_eq_unknown_iff, mem_present_mark_iff,
    le_knownThrough_mark_iff]
  -- a tag that the mark makes present is not behind the mark
  have hself : g = t → g ≤ t := by
    rintro rfl
    exact Tag.le_refl g
  tauto

end PortRecord

namespace Board

variable {b : Board} {port port' : PortId} {g t : Tag} {message : Bool}

/-! ### One mark -/

/-- Takes a mark for one input. -/
def mark (b : Board) (port : PortId) (tag : Tag) (message : Bool) : Board :=
  b.update port (·.mark tag message)

theorem markPresent_fst : (b.markPresent port t).1 = b.mark port t true := rfl

theorem markAbsent_eq : b.markAbsent port t = b.mark port t false := rfl

/-- A mark for one input leaves the record of another alone. -/
theorem getElem?_mark_of_ne (h : port' ≠ port) :
    (b.mark port t message).ports[port']? = b.ports[port']? :=
  getElem?_update_of_ne b _ h

theorem status_mark_self :
    (b.mark port t message).status port g
      = ((b.record port).mark t message).status g := by
  rw [status, mark, getElem?_update_self]

/-- A mark for one input is not seen at another. -/
theorem status_mark_of_ne (h : port' ≠ port) :
    (b.mark port t message).status port' g = b.status port' g := by
  rw [status, getElem?_mark_of_ne h, status]

theorem status_eq_present_iff :
    b.status port g = .present ↔ g ∈ (b.record port).present := by
  rw [status, record, Std.ExtTreeMap.getD_eq_getD_getElem?]
  cases b.ports[port]? with
  | none => simp
  | some r => exact PortRecord.status_eq_present_iff

/-- Behind any tag the blank record says as little as no record. -/
theorem status_record_eq_unknown_iff (h : ¬ g ≤ t) :
    (b.record port).status g = .unknown ↔ b.status port g = .unknown := by
  rw [status, record, Std.ExtTreeMap.getD_eq_getD_getElem?]
  cases b.ports[port]? with
  | none =>
    have hnever : ¬ g ≤ Tag.never :=
      fun hle => h (Tag.le_trans hle (Tag.never_le t))
    exact iff_of_true (PortRecord.status_eq_unknown_iff.mpr ⟨by simp, hnever⟩) rfl
  | some r => exact Iff.rfl

theorem present_mark_iff :
    (b.mark port t message).status port g = .present ↔
      b.status port g = .present ∨ message = true ∧ g = t := by
  rw [status_mark_self, PortRecord.status_eq_present_iff,
    PortRecord.mem_present_mark_iff, status_eq_present_iff]

theorem unknown_mark_iff :
    (b.mark port t message).status port g = .unknown ↔
      b.status port g = .unknown ∧ ¬ g ≤ t := by
  rw [status_mark_self, PortRecord.status_mark_eq_unknown_iff]
  exact and_congr_left status_record_eq_unknown_iff

/-- For the least tag of all, and for no other, the blank record says more than
no record. -/
theorem status_record_eq_absent_iff :
    (b.record port).status g = .absent ↔
      b.status port g = .absent ∨ b.status port g = .unknown ∧ g = .never := by
  rw [status, record, Std.ExtTreeMap.getD_eq_getD_getElem?]
  cases b.ports[port]? with
  | none =>
    have hblank :
        PortRecord.status {} g = if g ≤ .never then .absent else .unknown := rfl
    have hnever : g ≤ .never ↔ g = .never :=
      ⟨fun h => Tag.le_antisymm h (Tag.never_le g), fun h => h ▸ Tag.le_refl _⟩
    rw [Option.getD_none, hblank, ite_cond_congr (propext hnever)]
    by_cases h : g = .never <;> simp [h]
  | some r =>
    refine (or_iff_left ?_).symm
    rintro ⟨hunknown, rfl⟩
    exact (PortRecord.status_eq_unknown_iff.mp hunknown).2 (Tag.never_le _)

/-- A message is tardy if its tag is absent, or the least of all and not present. -/
theorem markPresent_tardy_iff :
    (b.markPresent port t).2 = .tardy ↔
      b.status port t = .absent ∨ b.status port t = .unknown ∧ t = .never := by
  rw [← status_record_eq_absent_iff, markPresent]
  split
  · next h => exact iff_of_true rfl h
  · next h => exact iff_of_false nofun h

/-! ### Several marks -/

/-- Whether the board `b'` says of an input what `b` says of it after the marks. -/
structure Took (b : Board) (port : PortId) (marks : List (Tag × Bool))
    (b' : Board) : Prop where
  present : ∀ g,
    b'.status port g = .present ↔ b.status port g = .present ∨ (g, true) ∈ marks
  unknown : ∀ g, b'.status port g = .unknown ↔
    b.status port g = .unknown ∧ ∀ mark ∈ marks, ¬ g ≤ mark.1

theorem took_nil {b' : Board} (h : ∀ g, b'.status port g = b.status port g) :
    b.Took port [] b' where
  present g := by simp [h g]
  unknown g := by simp [h g]

theorem took_mark (b : Board) (port : PortId) (tag : Tag) (message : Bool) :
    b.Took port [(tag, message)] (b.mark port tag message) where
  present g := by
    rw [present_mark_iff, List.mem_singleton, Prod.ext_iff]
    tauto
  unknown g := by rw [unknown_mark_iff, List.forall_mem_singleton]

theorem Took.trans {b' b'' : Board} {marks marks' : List (Tag × Bool)}
    (h : b.Took port marks b') (h' : b'.Took port marks' b'') :
    b.Took port (marks ++ marks') b'' where
  present g := by rw [h'.present, h.present, List.mem_append, or_assoc]
  unknown g := by rw [h'.unknown, h.unknown, List.forall_mem_append, and_assoc]

end Board

end Federation
