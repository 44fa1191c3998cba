import Mathlib.Data.List.Forall2
import SqlBuilder.Binder

/-!
# Two ways to write one thing

Two computations are akin if from the same state they come to related results and leave the same
state behind, or are both refused for a shape they have no use for (`Akin`). How a refusal is
worded may differ from one to the other. A computation that is akin to itself is never refused for
any other reason.

Akin computations draw the same numbers and bind the same values to the same placeholders, for that
is the state; only the text around the placeholders is left to the relation.
-/

namespace SqlBuilder

variable {σ α β γ δ : Type} {R : α → β → Prop} {S : γ → δ → Prop}

/-- Related results, or a misfit on either side. -/
inductive BothFit (R : α → β → Prop) : Except Failure α → Except Failure β → Prop
  | ok {a : α} {b : β} (h : R a b) : BothFit R (.ok a) (.ok b)
  | misfit (w w' : Misfit) : BothFit R (.error (.misfit w)) (.error (.misfit w'))

/-- From the same state to the same state, with related results. -/
def Akin (R : α → β → Prop) (r : ExceptT Failure (StateM σ) α)
    (r' : ExceptT Failure (StateM σ) β) : Prop :=
  ∀ s, BothFit R (r s).1 (r' s).1 ∧ (r s).2 = (r' s).2

namespace Akin

variable {r : ExceptT Failure (StateM σ) α} {r' : ExceptT Failure (StateM σ) β}

theorem pure {a : α} {b : β} (h : R a b) :
    Akin R (Pure.pure a : ExceptT Failure (StateM σ) α) (Pure.pure b) :=
  fun _ => ⟨.ok h, rfl⟩

theorem throw (w w' : Misfit) :
    Akin R (MonadExcept.throw (.misfit w) : ExceptT Failure (StateM σ) α)
      (MonadExcept.throw (.misfit w')) :=
  fun _ => ⟨.misfit w w', rfl⟩

/-- A computation that cannot fail. -/
theorem lift (m : StateM σ α) :
    Akin Eq (m : ExceptT Failure (StateM σ) α) (m : ExceptT Failure (StateM σ) α) :=
  fun _ => ⟨.ok rfl, rfl⟩

/-- Both come to a result from this state, or both are refused. -/
theorem cases (h : Akin R r r') (s : σ) :
    (∃ w w' t, r s = (.error (.misfit w), t) ∧ r' s = (.error (.misfit w'), t)) ∨
      ∃ a b t, r s = (.ok a, t) ∧ r' s = (.ok b, t) ∧ R a b := by
  obtain ⟨hresult, hstate⟩ := h s
  rcases hr : r s with ⟨x, t⟩
  rcases hr' : r' s with ⟨y, t'⟩
  rw [hr, hr'] at hresult hstate
  obtain rfl : t = t' := hstate
  cases hresult with
  | ok hab => exact .inr ⟨_, _, t, rfl, rfl, hab⟩
  | misfit w w' => exact .inl ⟨w, w', t, rfl, rfl⟩

theorem bind {k : α → ExceptT Failure (StateM σ) γ} {k' : β → ExceptT Failure (StateM σ) δ}
    (h : Akin R r r') (hk : ∀ a b, R a b → Akin S (k a) (k' b)) :
    Akin S (r >>= k) (r' >>= k') := by
  intro s
  rcases h.cases s with ⟨w, w', t, hr, hr'⟩ | ⟨a, b, t, hr, hr', hab⟩
  · rw [bind_of_error hr, bind_of_error hr']
    exact ⟨.misfit w w', rfl⟩
  · rw [bind_of_ok hr, bind_of_ok hr']
    exact hk a b hab t

theorem map {f : α → γ} {f' : β → δ} (h : Akin R r r') (hf : ∀ a b, R a b → S (f a) (f' b)) :
    Akin S (do return f (← r)) (do return f' (← r')) :=
  h.bind fun a b hab => pure (hf a b hab)

/-- What is done with the result on one side alone. -/
theorem map_left {f : α → γ} {S : γ → β → Prop} (h : Akin R r r')
    (hf : ∀ a b, R a b → S (f a) b) : Akin S (do return f (← r)) r' := by
  have hbind : Akin S (r >>= fun a => Pure.pure (f a)) (r' >>= Pure.pure) :=
    h.bind fun a b hab => pure (hf a b hab)
  rwa [bind_pure] at hbind

/-- One computation for each of two lists of arguments, side by side. -/
theorem mapM {ι κ : Type} {r : ι → ExceptT Failure (StateM σ) α}
    {r' : κ → ExceptT Failure (StateM σ) β} {is : List ι} {js : List κ}
    (h : List.Forall₂ (fun i j => Akin R (r i) (r' j)) is js) :
    Akin (List.Forall₂ R) (is.mapM r) (js.mapM r') := by
  induction h with
  | nil => exact pure .nil
  | cons hr _ ih =>
    rw [List.mapM_cons, List.mapM_cons]
    exact hr.bind fun a b hab => ih.bind fun as bs habs => pure (.cons hab habs)

end Akin

/-! ## Binding -/

namespace Binder

/-- An operand that is not a single value is refused for its shape. -/
theorem bindOperand_akin (v : Operand) (modifier : Option String) :
    Akin Eq (bindOperand v modifier) (bindOperand v modifier) := by
  cases v with
  | value v => exact .lift (bind v modifier)
  | data v own => exact .lift (bind v (own.or modifier))
  | list _ | raw _ | object _ => exact .throw _ _

theorem bindOperands_akin (vs : List Operand) (modifier : Option String) :
    Akin Eq (vs.mapM fun v => bindOperand v modifier)
      (vs.mapM fun v => bindOperand v modifier) := by
  have h := Akin.mapM (List.forall₂_same.2 fun v (_ : v ∈ vs) => bindOperand_akin v modifier)
  rwa [List.forall₂_eq_eq_eq] at h

end Binder
end SqlBuilder
