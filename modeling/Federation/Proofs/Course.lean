/-
Federation/Proofs/Course.lean

How procedures go that may fail.

Conversations over a link and the parts of a start are procedures of one kind
(`Procedure`): they change a state, and end with a result or with a fault,
either way in the state that they had reached. Three ways to speak of them are
set up here, each with its rule for what comes one after another:

* what a procedure comes to from a given state (`bind_of_ok`, `bind_of_error`);
* where it leads from all the states that satisfy something (`Leads`);
* that two procedures go alike (`Alike`): from states that are alike they end
  with the same result or the same fault, in states that are alike in their
  turn.
-/
import Mathlib

namespace Federation

/-- What works on a state of type `σ`, and may fail with an `ε`. -/
abbrev Procedure (ε σ α : Type) := ExceptT ε (StateM σ) α

namespace Procedure

variable {ε σ τ α β : Type}
variable {m : Procedure ε σ α} {f : α → Procedure ε σ β} {s s' : σ}

/-! ### What a procedure comes to -/

theorem bind_apply (m : Procedure ε σ α) (f : α → Procedure ε σ β) (s : σ) :
    (m >>= f) s = match (m s).1 with
      | .ok a => f a (m s).2
      | .error e => (.error e, (m s).2) := by
  show (match (m s).1 with
    | .ok a => f a
    | .error e => pure (.error e) : StateM σ _) (m s).2 = _
  cases (m s).1 <;> rfl

theorem bind_of_ok {a : α} (h : m s = (.ok a, s')) : (m >>= f) s = f a s' := by
  rw [bind_apply, h]

theorem bind_of_error {e : ε} (h : m s = (.error e, s')) :
    (m >>= f) s = (.error e, s') := by
  rw [bind_apply, h]

/-- What succeeds in two parts succeeds in each of them. -/
theorem exists_of_bind_ok {b : β} {s'' : σ} (h : (m >>= f) s = (.ok b, s'')) :
    ∃ a s', m s = (.ok a, s') ∧ f a s' = (.ok b, s'') := by
  rcases hm : m s with ⟨e | a, s'⟩
  · rw [bind_of_error hm] at h
    cases h
  · rw [bind_of_ok hm] at h
    exact ⟨a, s', rfl, h⟩

theorem tryCatch_apply (m : Procedure ε σ α)
    (handle : ε → Procedure ε σ α) (s : σ) :
    tryCatch m handle s = match m s with
      | (.ok a, s') => (.ok a, s')
      | (.error e, s') => handle e s' := by
  show (match (m s).1 with
    | .ok a => pure (.ok a)
    | .error e => handle e : StateM σ _) (m s).2 = _
  rcases m s with ⟨e | a, s'⟩ <;> rfl

/-! ### Where a procedure leads -/

/-- From a state that satisfies `P` the procedure leads to one that satisfies
`Q` of the result, or it fails in one that satisfies `E`. -/
def Leads (P : σ → Prop) (m : Procedure ε σ α) (Q : α → σ → Prop)
    (E : σ → Prop) : Prop :=
  ∀ s, P s → match m s with
    | (.ok a, s') => Q a s'
    | (.error _, s') => E s'

variable {P P' : σ → Prop} {Q Q' : α → σ → Prop} {R : β → σ → Prop}
  {E E' : σ → Prop}

/-- What holds of the state afterwards in any case. -/
theorem leads_of_after (h : ∀ s, P s → (∀ a, Q a (m s).2) ∧ E (m s).2) :
    Leads P m Q E := by
  intro s hs
  obtain ⟨hok, herror⟩ := h s hs
  rcases hm : m s with ⟨e | a, s'⟩
  · rwa [hm] at herror
  · have hresult := hok a
    rwa [hm] at hresult

theorem leads_pure {a : α} (h : ∀ s, P s → Q a s) :
    Leads P (pure a : Procedure ε σ α) Q E := h

theorem leads_throw {e : ε} (h : ∀ s, P s → E s) :
    Leads P (throw e : Procedure ε σ α) Q E := h

theorem Leads.bind (hm : Leads P m Q E) (hf : ∀ a, Leads (Q a) (f a) R E) :
    Leads P (m >>= f) R E := by
  intro s hs
  have hfirst := hm s hs
  rcases h : m s with ⟨e | a, s'⟩
  · rw [bind_of_error h]
    rw [h] at hfirst
    exact hfirst
  · rw [bind_of_ok h]
    rw [h] at hfirst
    exact hf a s' hfirst

/-- A procedure that fails may be followed by another one instead. -/
theorem Leads.tryCatch {handle : ε → Procedure ε σ α} (hm : Leads P m Q E)
    (hhandle : ∀ e, Leads E (handle e) Q E') :
    Leads P (tryCatch m handle) Q E' := by
  intro s hs
  have hfirst := hm s hs
  rw [tryCatch_apply]
  rcases h : m s with ⟨e | a, s'⟩
  · rw [h] at hfirst
    exact hhandle e s' hfirst
  · rw [h] at hfirst
    exact hfirst

/-- From states that are alike in one way, both procedures end with the same
result or the same fault, in states that are alike in another way. -/
def Alike (R : σ → τ → Prop) (m : Procedure ε σ α) (n : Procedure ε τ α)
    (S : σ → τ → Prop) : Prop :=
  ∀ s t, R s t → (m s).1 = (n t).1 ∧ S (m s).2 (n t).2

section Alike

variable {n : Procedure ε τ α} {g : α → Procedure ε τ β} {R S T : σ → τ → Prop}

theorem alike_pure {a : α} (h : ∀ s t, R s t → S s t) :
    Alike R (pure a : Procedure ε σ α) (pure a : Procedure ε τ α) S :=
  fun s t hR => ⟨rfl, h s t hR⟩

theorem alike_throw {e : ε} (h : ∀ s t, R s t → S s t) :
    Alike R (throw e : Procedure ε σ α) (throw e : Procedure ε τ α) S :=
  fun s t hR => ⟨rfl, h s t hR⟩

theorem Alike.bind (hm : Alike R m n S) (hf : ∀ a, Alike S (f a) (g a) T)
    (hST : ∀ s t, S s t → T s t) : Alike R (m >>= f) (n >>= g) T := by
  intro s t hR
  obtain ⟨hresult, hS⟩ := hm s t hR
  rw [bind_apply, bind_apply, ← hresult]
  rcases (m s).1 with e | a
  · exact ⟨rfl, hST _ _ hS⟩
  · exact hf a _ _ hS

theorem Alike.tryCatch {m : Procedure ε σ α} {n : Procedure ε τ α}
    {handle : ε → Procedure ε σ α} {handle' : ε → Procedure ε τ α}
    (hm : Alike R m n S) (h : ∀ e, Alike S (handle e) (handle' e) S) :
    Alike R (tryCatch m handle) (tryCatch n handle') S := by
  intro s t hR
  obtain ⟨hresult, hS⟩ := hm s t hR
  rw [tryCatch_apply, tryCatch_apply]
  rcases hs : m s with ⟨e | a, s'⟩ <;> rcases ht : n t with ⟨e' | a', t'⟩ <;>
    rw [hs, ht] at hresult hS
  · cases hresult
    exact h e s' t' hS
  · cases hresult
  · cases hresult
  · cases hresult
    exact ⟨rfl, hS⟩

theorem alike_forM {body : β → Procedure ε σ Unit} {body' : β → Procedure ε τ Unit}
    (h : ∀ b, Alike R (body b) (body' b) R) (bs : List β) :
    Alike R (bs.forM body) (bs.forM body') R := by
  induction bs with
  | nil => exact alike_pure fun _ _ => id
  | cons b bs ih => exact (h b).bind (fun _ => ih) fun _ _ => id

end Alike

end Procedure

end Federation
