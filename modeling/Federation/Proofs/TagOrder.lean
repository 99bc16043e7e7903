/-
Federation/Proofs/TagOrder.lean

The order of the tags.

A tag has a place in a row: as the microsteps of an instant fill 32 bits, the row is

    position t = t.time.ns * 2 ^ 32 + t.microstep,

and tags are ordered as their positions are. So all that is to say of the order
is arithmetic of integers.

Where a delay leads is said in numbers without a limit (`LeadsTo`), and so is
why it fails (`FailsWith`). For every tag and every delay there is one or the
other (`delayed_cases`), and all else about delays comes from there: a delay
keeps the order of two tags (`delayed_mono`), though it may bring them together
(`delayed_eq_iff`).
-/
import Mathlib
import Federation.Time.Tag

namespace Federation

/-- A sum of an instant and a distance onward is the exact one, or it is refused
as it lies beyond the last instant. -/
theorem Instant.checkedAdd_cases (t : Instant) {d : Interval} (hd : 0 < d.ns) :
    (∃ t', t.checkedAdd d = .ok t' ∧ t'.ns = t.ns + d.ns) ∨
    (t.checkedAdd d = .error (.overflow t d) ∧ 2 ^ 63 - 1 < t.ns + d.ns) := by
  obtain ⟨hlo, -⟩ := t.inRange
  by_cases hrange : Nanos.InRange (t.ns + d.ns)
  · refine .inl ⟨⟨t.ns + d.ns, hrange⟩, ?_, rfl⟩
    rw [checkedAdd, dif_pos hrange]
  · refine .inr ⟨?_, ?_⟩
    · rw [checkedAdd, dif_neg hrange]
    · by_contra hle
      exact hrange ⟨by omega, by omega⟩

namespace Tag

variable {a b t : Tag} {delay : Delay} {e : TimeError}

/-- The place of the tag in the row of all tags. -/
def position (t : Tag) : Int := t.time.ns * 4294967296 + t.microstep.toNat

@[simp] theorem position_never :
    never.position = -9223372036854775808 * 4294967296 := rfl

theorem le_iff : a ≤ b ↔ a.position ≤ b.position := by
  have ha := a.microstep.toNat_lt
  have hb := b.microstep.toNat_lt
  rw [le_def, Instant.ext_iff, UInt32.le_iff_toNat_le, position, position]
  omega

theorem lt_iff : a < b ↔ a.position < b.position := by
  have ha := a.microstep.toNat_lt
  have hb := b.microstep.toNat_lt
  rw [lt_def, Instant.ext_iff, UInt32.lt_iff_toNat_lt, position, position]
  omega

theorem le_refl (t : Tag) : t ≤ t := le_iff.mpr (Int.le_refl _)

theorem le_trans {c : Tag} (hab : a ≤ b) (hbc : b ≤ c) : a ≤ c :=
  le_iff.mpr ((le_iff.mp hab).trans (le_iff.mp hbc))

theorem le_antisymm (hab : a ≤ b) (hba : b ≤ a) : a = b := by
  have ha := a.microstep.toNat_lt
  have hb := b.microstep.toNat_lt
  rw [le_iff, position, position] at hab hba
  rw [Tag.ext_iff, Instant.ext_iff, ← UInt32.toNat_inj]
  omega

theorem position_inj : a.position = b.position ↔ a = b := by
  constructor
  · intro h
    exact le_antisymm (le_iff.mpr h.le) (le_iff.mpr h.ge)
  · rintro rfl
    rfl

theorem not_lt : ¬ a < b ↔ b ≤ a := by
  rw [lt_iff, le_iff]
  exact Int.not_lt

theorem never_le (t : Tag) : never ≤ t := by
  have ht := t.time.inRange
  rw [le_iff, position_never, position]
  omega

/-- What is not beyond the later of two tags is not beyond one of them. -/
theorem le_later_iff : t ≤ a.later b ↔ t ≤ a ∨ t ≤ b := by
  unfold later
  split <;> simp only [le_iff] at * <;> omega

/-! ### Where a delay leads, and where it fails -/

/-- Where a delay leads, in numbers without a limit. -/
inductive LeadsTo (t : Tag) : Delay → Tag → Prop
  | none : LeadsTo t none t
  | zero {d : Interval} {a : Tag} (hd : d.ns = 0) (htime : a.time.ns = t.time.ns)
      (hmicro : a.microstep.toNat = t.microstep.toNat + 1) : LeadsTo t (some d) a
  | positive {d : Interval} {a : Tag} (hd : 0 < d.ns)
      (htime : a.time.ns = t.time.ns + d.ns) (hmicro : a.microstep.toNat = 0) :
      LeadsTo t (some d) a

/-- Why a delay fails. -/
inductive FailsWith (t : Tag) : Delay → TimeError → Prop
  | negative {d : Interval} (hd : d.ns < 0) : FailsWith t (some d) (.negative d)
  | lastMicrostep {d : Interval} (hd : d.ns = 0)
      (hlast : t.microstep.toNat = 2 ^ 32 - 1) :
      FailsWith t (some d) (.overflow t.time .zero)
  | beyondLast {d : Interval} (hd : 0 < d.ns)
      (hbeyond : 2 ^ 63 - 1 < t.time.ns + d.ns) :
      FailsWith t (some d) (.overflow t.time d)

/-- A delay leads where it should, or fails for one of the reasons there are. -/
theorem delayed_cases (t : Tag) (delay : Delay) :
    (∃ a, t.delayed delay = .ok a ∧ t.LeadsTo delay a) ∨
    (∃ e, t.delayed delay = .error e ∧ t.FailsWith delay e) := by
  cases delay with
  | none => exact .inl ⟨t, rfl, .none⟩
  | some d =>
    rcases Int.lt_trichotomy d.ns 0 with hneg | hzero | hpos
    · refine .inr ⟨_, ?_, .negative hneg⟩
      rw [delayed, if_pos hneg]
    · -- one microstep on, unless it was the last one
      by_cases hlast : t.microstep = 4294967295
      · refine .inr ⟨_, ?_, .lastMicrostep hzero (congrArg UInt32.toNat hlast)⟩
        rw [delayed, if_neg hzero.not_lt, if_pos hzero, if_pos hlast]
      · have hstep : (t.microstep + 1).toNat = t.microstep.toNat + 1 := by
          have hne : t.microstep.toNat ≠ 4294967295 :=
            fun h => hlast (UInt32.toNat_inj.mp h)
          have hlt := t.microstep.toNat_lt
          rw [UInt32.toNat_add]
          exact Nat.mod_eq_of_lt (show t.microstep.toNat + 1 < 4294967296 by omega)
        refine .inl ⟨⟨t.time, t.microstep + 1⟩, ?_, .zero hzero rfl hstep⟩
        rw [delayed, if_neg hzero.not_lt, if_pos hzero, if_neg hlast]
    · have hdelayed : t.delayed (some d) = (t.time.checkedAdd d).map .firstAt := by
        rw [delayed, if_neg hpos.not_gt, if_neg hpos.ne']
      rw [hdelayed]
      rcases t.time.checkedAdd_cases hpos with ⟨time, hadd, htime⟩ | ⟨hadd, hbeyond⟩
      · exact .inl ⟨.firstAt time, by rw [hadd]; rfl, .positive hpos htime rfl⟩
      · exact .inr ⟨_, by rw [hadd]; rfl, .beyondLast hpos hbeyond⟩

theorem LeadsTo.unique (ha : t.LeadsTo delay a) (hb : t.LeadsTo delay b) :
    a = b := by
  rw [Tag.ext_iff, Instant.ext_iff, ← UInt32.toNat_inj]
  cases ha with
  | none =>
    cases hb
    exact ⟨rfl, rfl⟩
  | zero hd htime hmicro => cases hb <;> omega
  | positive hd htime hmicro => cases hb <;> omega

theorem LeadsTo.not_failsWith (h : t.LeadsTo delay a) : ¬ t.FailsWith delay e := by
  have hmicro := a.microstep.toNat_lt
  have htime := a.time.inRange.2
  intro hfails
  cases h with
  | none => cases hfails
  | zero => cases hfails <;> omega
  | positive => cases hfails <;> omega

theorem FailsWith.unique {e' : TimeError} (h : t.FailsWith delay e)
    (h' : t.FailsWith delay e') :
    e = e' := by
  cases h with
  | negative => cases h' <;> first | rfl | omega
  | lastMicrostep => cases h' <;> first | rfl | omega
  | beyondLast => cases h' <;> first | rfl | omega

theorem delayed_ok_iff : t.delayed delay = .ok a ↔ t.LeadsTo delay a := by
  rcases delayed_cases t delay with ⟨a₀, hdelayed, hleads⟩ | ⟨e, hdelayed, hfails⟩
  · rw [hdelayed, Except.ok.injEq]
    constructor
    · rintro rfl
      exact hleads
    · exact hleads.unique
  · rw [hdelayed]
    exact iff_of_false nofun fun hleads => hleads.not_failsWith hfails

theorem delayed_error_iff : t.delayed delay = .error e ↔ t.FailsWith delay e := by
  rcases delayed_cases t delay with ⟨a, hdelayed, hleads⟩ | ⟨e₀, hdelayed, hfails⟩
  · rw [hdelayed]
    exact iff_of_false nofun hleads.not_failsWith
  · rw [hdelayed, Except.error.injEq]
    constructor
    · rintro rfl
      exact hfails
    · exact hfails.unique

/-- The place of the tag that a delay leads to. -/
theorem position_of_delayed {delay : Delay} (h : t.delayed delay = .ok a) :
    match delay with
    | none => a = t
    | some d =>
      (d.ns = 0 ∧ a.position = t.position + 1) ∨
      (0 < d.ns ∧ a.position = (t.time.ns + d.ns) * 4294967296) := by
  unfold position
  cases delayed_ok_iff.mp h with
  | none => rfl
  | zero hd htime hmicro => exact .inl ⟨hd, by omega⟩
  | positive hd htime hmicro => exact .inr ⟨hd, by omega⟩

/-! ### Two tags and a delay -/

/-- A delay keeps the order of two tags. -/
theorem delayed_mono {delay : Delay} {a' b' : Tag} (h : a < b)
    (ha : a.delayed delay = .ok a') (hb : b.delayed delay = .ok b') :
    a' ≤ b' := by
  have hpa := position_of_delayed ha
  have hpb := position_of_delayed hb
  have hma := a.microstep.toNat_lt
  have hmb := b.microstep.toNat_lt
  rw [lt_iff] at h
  rw [le_iff]
  cases delay with
  | none =>
    -- without a clause the tags stay where they are
    obtain rfl : a' = a := hpa
    obtain rfl : b' = b := hpb
    exact h.le
  | some d =>
    -- `d` is one delay for both, so both tags step within their instant or both
    -- leave it
    simp only at hpa hpb
    unfold position at *
    omega

/-- A delay brings two tags together if it is positive and they are of one
instant, and only then. -/
theorem delayed_eq_iff {delay : Delay} {b' : Tag} (h : a < b)
    (hb : b.delayed delay = .ok b') :
    a.delayed delay = .ok b' ↔ 0 < delay.interval.ns ∧ a.time = b.time := by
  have hpb := position_of_delayed hb
  constructor
  · intro ha
    have hpa := position_of_delayed ha
    rw [lt_iff] at h
    cases delay with
    | none =>
      obtain rfl : b' = b := hpb
      obtain rfl : b' = a := hpa
      exact absurd h (lt_irrefl _)
    | some d =>
      change 0 < d.ns ∧ _
      simp only at hpa hpb
      rw [Instant.ext_iff]
      omega
  · rintro ⟨hpositive, htime⟩
    cases delay with
    | none => cases hpositive
    | some d =>
      -- a positive delay does not look at the microstep
      have hpos : 0 < d.ns := hpositive
      rw [← hb, delayed, delayed, if_neg (by omega), if_neg (by omega),
        if_neg (by omega), if_neg (by omega), htime]

/-- Nothing arrives at the least tag of all but what left there without a delay. -/
theorem delayed_eq_never_iff {delay : Delay} (h : t.delayed delay = .ok a) :
    a = never ↔ delay = none ∧ t = never := by
  have hposition := position_of_delayed h
  cases delay with
  | none =>
    obtain rfl : a = t := hposition
    exact (and_iff_right rfl).symm
  | some d =>
    refine iff_of_false ?_ nofun
    rintro rfl
    have hrange := t.time.inRange
    rw [position_never] at hposition
    unfold position Nanos.InRange at *
    omega

end Tag

end Federation
