/-
Federation/Proofs/DelayOrder.lean

What delays do to the order of tags.

The status board takes it for granted that the messages of a connection arrive
in the order of their tags. They leave in that order, and it is for the delay of
the connection to keep it. It does: it leads no tag beyond one that was not
before it (`delayed_le_delayed`). It never leads back, leads on if it is
declared (`le_delayed`), and leads the further the longer it is (`delayed_le`).
What it may do is to bring two tags together, and only a positive delay does so,
with tags of one instant (`delayed_eq_delayed_iff`).

All this holds wherever the delay leads anywhere. Where it does not, there is no
tag that it could lead to, or it points backwards (`FailsWith`): at the last
microstep of an instant there is no next one, and beyond the last instant there
is none. `delayed_respects_order` puts all of it together.
-/
import Mathlib
import Federation.Proofs.Neighbors

namespace Federation.Tag

variable {t a b a' b' : Tag} {delay : Delay}

/-- A delay does not lead back, and it leads on if it is declared. -/
theorem le_delayed (h : t.delayed delay = .ok a) :
    t ≤ a ∧ (delay ≠ none → t < a) := by
  refine ⟨delayed_le (Delay.none_noLonger delay) rfl h, fun hdelay => ?_⟩
  have hmicro := t.microstep.toNat_lt
  rw [lt_iff, position, position]
  cases delayed_ok_iff.mp h with
  | none => exact absurd rfl hdelay
  | zero => omega
  | positive => omega

/-- A delay keeps the order of two tags, which may be one and the same. -/
theorem delayed_le_delayed (h : a ≤ b) (ha : a.delayed delay = .ok a')
    (hb : b.delayed delay = .ok b') : a' ≤ b' := by
  rcases Int.lt_or_eq_of_le (le_iff.mp h) with hlt | heq
  · exact delayed_mono (lt_iff.mpr hlt) ha hb
  · obtain rfl := position_inj.mp heq
    rw [ha, Except.ok.injEq] at hb
    exact hb ▸ le_refl a'

/-- A positive delay brings the tags of one instant together, and no delay does
so with others. -/
theorem delayed_eq_delayed_iff (ha : a.delayed delay = .ok a')
    (hb : b.delayed delay = .ok b') :
    a' = b' ↔ a = b ∨ 0 < delay.interval.ns ∧ a.time = b.time := by
  rcases Int.lt_trichotomy a.position b.position with hlt | heq | hgt
  · have hne : a ≠ b := fun h => hlt.ne (position_inj.mpr h)
    have hmerge := delayed_eq_iff (lt_iff.mpr hlt) hb
    rw [ha, Except.ok.injEq] at hmerge
    rw [hmerge, or_iff_right hne]
  · obtain rfl := position_inj.mp heq
    rw [ha, Except.ok.injEq] at hb
    exact iff_of_true hb (.inl rfl)
  · have hne : a ≠ b := fun h => hgt.ne (position_inj.mpr h.symm)
    have hmerge := delayed_eq_iff (lt_iff.mpr hgt) ha
    rw [hb, Except.ok.injEq] at hmerge
    rw [eq_comm, hmerge, or_iff_right hne, eq_comm (a := b.time)]

/-- **Delays respect the order of tags.** Wherever a delay leads, it keeps the
order of two tags, does not lead back, and leads on if it is declared; a longer
one does not lead less far. Two tags stay apart under a missing delay and one of
nought, and under a positive one exactly if their times differ. A delay leads
where the unlimited numbers say, and fails exactly if it is negative, of nought at
the last microstep, or positive and the sum beyond the last instant. -/
theorem delayed_respects_order (delay : Delay) (a b : Tag) :
    (∀ a' b',
      a.delayed delay = .ok a' → b.delayed delay = .ok b' → a ≤ b → a' ≤ b') ∧
    (∀ a', a.delayed delay = .ok a' → a ≤ a' ∧ (delay ≠ none → a < a')) ∧
    (∀ longer a' a'', delay.NoLonger longer → a.delayed delay = .ok a' →
      a.delayed longer = .ok a'' → a' ≤ a'') ∧
    (∀ a' b', a.delayed delay = .ok a' → b.delayed delay = .ok b' →
      (¬ 0 < delay.interval.ns → (a' = b' ↔ a = b)) ∧
      (0 < delay.interval.ns → (a' = b' ↔ a.time = b.time))) ∧
    (∀ a', a.delayed delay = .ok a' ↔ a.LeadsTo delay a') ∧
    (∀ e, a.delayed delay = .error e ↔ a.FailsWith delay e) := by
  refine ⟨?_, ?_, ?_, ?_, ?_, ?_⟩
  · intro a' b' ha hb hle
    exact delayed_le_delayed hle ha hb
  · intro a' ha
    exact le_delayed ha
  · intro longer a' a'' hlonger ha ha'
    exact delayed_le hlonger ha ha'
  · intro a' b' ha hb
    have hmerge := delayed_eq_delayed_iff ha hb
    constructor
    · intro hpositive
      rw [hmerge, or_iff_left fun h => hpositive h.1]
    · intro hpositive
      rw [hmerge]
      constructor
      · rintro (rfl | ⟨-, htime⟩)
        · rfl
        · exact htime
      · intro htime
        exact .inr ⟨hpositive, htime⟩
  · intro a'
    exact delayed_ok_iff
  · intro e
    exact delayed_error_iff

/-- Ten nanoseconds bring two microsteps of an instant together, nought keeps
them apart and leads less far, and at the last microstep nought leads nowhere.
-/
theorem delayed_respects_order_at_edges :
    (∃ a', delayed ⟨⟨100, by decide⟩, 0⟩ (some ⟨10, by decide⟩) = .ok a' ∧
      delayed ⟨⟨100, by decide⟩, 7⟩ (some ⟨10, by decide⟩) = .ok a') ∧
    (∃ a' b', delayed ⟨⟨100, by decide⟩, 0⟩ (some .zero) = .ok a' ∧
      delayed ⟨⟨100, by decide⟩, 7⟩ (some .zero) = .ok b' ∧ a' ≠ b' ∧
      a' ≤ ⟨⟨110, by decide⟩, 0⟩) ∧
    delayed forever (some .zero) = .error (.overflow .forever .zero) := by
  obtain ⟨-, -, -, hten, -, -⟩ :=
    delayed_respects_order (some ⟨10, by decide⟩) ⟨⟨100, by decide⟩, 0⟩
      ⟨⟨100, by decide⟩, 7⟩
  obtain ⟨-, -, hlonger, hnought, -, -⟩ :=
    delayed_respects_order (some .zero) ⟨⟨100, by decide⟩, 0⟩ ⟨⟨100, by decide⟩, 7⟩
  obtain ⟨-, -, -, -, -, hfails⟩ :=
    delayed_respects_order (some .zero) forever forever
  refine ⟨?_, ?_, ?_⟩
  · have hmerged := ((hten _ _ rfl rfl).2 (by decide)).mpr rfl
    exact ⟨_, rfl, hmerged ▸ rfl⟩
  · have hapart := (hnought _ _ rfl rfl).1 (by decide)
    refine ⟨_, _, rfl, rfl, ?_, ?_⟩
    · intro heq
      cases hapart.mp heq
    · exact hlonger (some ⟨10, by decide⟩) _ _
        (by simp [Delay.NoLonger, Interval.zero]) rfl rfl
  · exact (hfails _).mpr (.lastMicrostep rfl rfl)

end Federation.Tag
