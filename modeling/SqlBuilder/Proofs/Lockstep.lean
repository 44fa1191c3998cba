import Mathlib.Data.List.Forall2
import SqlBuilder.Failure

/-!
# Computations in lockstep

Two computations run abreast under a relation on states and one on results if from related states
they come to related results or fail alike, and leave related states behind (`Abreast`). Every way
in which computations are put together keeps them abreast, so that for two of the same shape only
the steps that touch the state need a proof of their own.

They run in lockstep if they come to the same result, be it a value or a failure (`Lockstep`).
-/

namespace SqlBuilder

/-! ## Related results -/

section Rules

variable {σ α β : Type} {S : σ → σ → Prop} {R : α → α → Prop} {T : β → β → Prop}
  {r r' : ExceptT Failure (StateM σ) α}

/-- Related results, or the same failure. -/
inductive Outcomes (R : α → α → Prop) : Except Failure α → Except Failure α → Prop
  | ok {a a' : α} (h : R a a') : Outcomes R (.ok a) (.ok a')
  | error (f : Failure) : Outcomes R (.error f) (.error f)

theorem outcomes_eq {a a' : Except Failure α} : Outcomes Eq a a' ↔ a = a' := by
  constructor
  · rintro (rfl | f)
    · rfl
    · rfl
  · rintro rfl
    cases a with
    | ok a => exact .ok rfl
    | error f => exact .error f

theorem Outcomes.mono {R' : α → α → Prop} {a a' : Except Failure α} (h : Outcomes R a a')
    (hR : ∀ a a', R a a' → R' a a') : Outcomes R' a a' := by
  cases h with
  | ok ha => exact .ok (hR _ _ ha)
  | error f => exact .error f

/-- From related states, related results and related states again. -/
def Abreast (S : σ → σ → Prop) (R : α → α → Prop) (r r' : ExceptT Failure (StateM σ) α) : Prop :=
  ∀ ⦃s s'⦄, S s s' → Outcomes R (r s).1 (r' s').1 ∧ S (r s).2 (r' s').2

namespace Abreast

theorem pure {a a' : α} (h : R a a') : Abreast S R (Pure.pure a) (Pure.pure a') :=
  fun _ _ hs => ⟨.ok h, hs⟩

theorem throw (f : Failure) :
    Abreast S R (MonadExcept.throw f : ExceptT Failure (StateM σ) α) (MonadExcept.throw f) :=
  fun _ _ hs => ⟨.error f, hs⟩

theorem except {r : Except Failure α} (h : ∀ a, r = .ok a → R a a) :
    Abreast S R (r : ExceptT Failure (StateM σ) α) (r : ExceptT Failure (StateM σ) α) := by
  cases r with
  | error f => exact throw f
  | ok a => exact pure (h a rfl)

/-- A computation that cannot fail. -/
theorem lift {m m' : StateM σ α}
    (h : ∀ ⦃s s'⦄, S s s' → R (m s).1 (m' s').1 ∧ S (m s).2 (m' s').2) :
    Abreast S R (m : ExceptT Failure (StateM σ) α) (m' : ExceptT Failure (StateM σ) α) :=
  fun _ _ hs => ⟨.ok (h hs).1, (h hs).2⟩

theorem weaken {R' : α → α → Prop} (h : Abreast S R r r') (hR : ∀ a a', R a a' → R' a a') :
    Abreast S R' r r' := by
  intro s s' hs
  obtain ⟨hresult, hstate⟩ := h hs
  exact ⟨hresult.mono hR, hstate⟩

theorem bind {next next' : α → ExceptT Failure (StateM σ) β} (h : Abreast S R r r')
    (hnext : ∀ a a', R a a' → Abreast S T (next a) (next' a')) :
    Abreast S T (r >>= next) (r' >>= next') := by
  intro s s' hs
  obtain ⟨hresult, hstate⟩ := h hs
  rcases hr : r s with ⟨a, t⟩
  rcases hr' : r' s' with ⟨a', t'⟩
  rw [hr, hr'] at hresult hstate
  cases hresult with
  | error f =>
    rw [bind_of_error hr, bind_of_error hr']
    exact ⟨.error f, hstate⟩
  | ok ha =>
    rw [bind_of_ok hr, bind_of_ok hr']
    exact hnext _ _ ha hstate

theorem map {f f' : α → β} (h : Abreast S R r r') (hf : ∀ a a', R a a' → T (f a) (f' a')) :
    Abreast S T (do return f (← r)) (do return f' (← r')) :=
  h.bind fun a a' ha => pure (hf a a' ha)

/-- The same choice on both sides. -/
theorem ite {p : Prop} [Decidable p] {t t' : ExceptT Failure (StateM σ) α}
    (hr : Abreast S R r r') (ht : Abreast S R t t') :
    Abreast S R (if p then r else t) (if p then r' else t') := by
  by_cases hp : p
  · rw [if_pos hp, if_pos hp]
    exact hr
  · rw [if_neg hp, if_neg hp]
    exact ht

/-- One computation for each of two lists of arguments, side by side. -/
theorem mapM {ι : Type} {r r' : ι → ExceptT Failure (StateM σ) α} {is js : List ι}
    (h : List.Forall₂ (fun i j => Abreast S R (r i) (r' j)) is js) :
    Abreast S (List.Forall₂ R) (is.mapM r) (js.mapM r') := by
  induction h with
  | nil => exact pure .nil
  | cons hr _ ih =>
    rw [List.mapM_cons, List.mapM_cons]
    exact hr.bind fun a a' ha => ih.bind fun as as' has => pure (.cons ha has)

end Abreast

end Rules

/-! ## The same result -/

variable {σ α β : Type} {S : σ → σ → Prop}

/-- From related states, the same result and related states again. -/
def Lockstep (S : σ → σ → Prop) (r r' : ExceptT Failure (StateM σ) α) : Prop :=
  ∀ ⦃s s'⦄, S s s' → (r s).1 = (r' s').1 ∧ S (r s).2 (r' s').2

theorem lockstep_iff {r r' : ExceptT Failure (StateM σ) α} :
    Lockstep S r r' ↔ Abreast S Eq r r' := by
  unfold Lockstep Abreast
  simp only [outcomes_eq]

namespace Lockstep

theorem pure (a : α) : Lockstep S (Pure.pure a) (Pure.pure a) := lockstep_iff.2 (.pure rfl)

theorem throw (f : Failure) :
    Lockstep S (MonadExcept.throw f : ExceptT Failure (StateM σ) α) (MonadExcept.throw f) :=
  lockstep_iff.2 (.throw f)

theorem except {r r' : Except Failure α} (h : r = r') :
    Lockstep S (r : ExceptT Failure (StateM σ) α) (r' : ExceptT Failure (StateM σ) α) := by
  subst h
  exact lockstep_iff.2 (.except fun _ _ => rfl)

/-- A computation that cannot fail. -/
theorem lift {m m' : StateM σ α}
    (h : ∀ ⦃s s'⦄, S s s' → (m s).1 = (m' s').1 ∧ S (m s).2 (m' s').2) :
    Lockstep S (m : ExceptT Failure (StateM σ) α) (m' : ExceptT Failure (StateM σ) α) :=
  lockstep_iff.2 (.lift h)

theorem bind {r r' : ExceptT Failure (StateM σ) α} {next next' : α → ExceptT Failure (StateM σ) β}
    (h : Lockstep S r r') (hnext : ∀ a, Lockstep S (next a) (next' a)) :
    Lockstep S (r >>= next) (r' >>= next') := by
  refine lockstep_iff.2 ((lockstep_iff.1 h).bind ?_)
  rintro a _ rfl
  exact lockstep_iff.1 (hnext a)

/-- The same choice on both sides. -/
theorem ite {p : Prop} [Decidable p] {r r' t t' : ExceptT Failure (StateM σ) α}
    (hr : Lockstep S r r') (ht : Lockstep S t t') :
    Lockstep S (if p then r else t) (if p then r' else t') :=
  lockstep_iff.2 ((lockstep_iff.1 hr).ite (lockstep_iff.1 ht))

/-- One computation for each of two lists of arguments, side by side. -/
theorem mapM {ι : Type} {R : ι → ι → Prop} {r : ι → ExceptT Failure (StateM σ) α}
    (hr : ∀ i j, R i j → Lockstep S (r i) (r j)) {is js : List ι} (h : List.Forall₂ R is js) :
    Lockstep S (is.mapM r) (js.mapM r) := by
  have habreast := Abreast.mapM (h.imp fun i j hij => lockstep_iff.1 (hr i j hij))
  rw [List.forall₂_eq_eq_eq] at habreast
  exact lockstep_iff.2 habreast

end Lockstep
end SqlBuilder
