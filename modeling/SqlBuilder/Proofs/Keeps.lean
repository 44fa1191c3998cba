import SqlBuilder.Call

/-!
# What a computation keeps

`Keeps I P r` says of a computation that it keeps `I` up in the state, also if it fails, and that
whatever it yields is in `P`. With nothing to keep up it says what comes out of writing a fragment,
and with nothing to yield it says that an edit keeps up an invariant of the query.
-/

namespace SqlBuilder

variable {σ α β : Type} {I : σ → Prop} {P : α → Prop} {Q : β → Prop}

/-- What holds of the state is kept up, and what comes out is in `P`. -/
def Keeps (I : σ → Prop) (P : α → Prop) (r : ExceptT Failure (StateM σ) α) : Prop :=
  ∀ s, I s → I (r s).2 ∧ ∀ a, (r s).1 = .ok a → P a

namespace Keeps

variable {r : ExceptT Failure (StateM σ) α}

theorem pure {a : α} (h : P a) : Keeps I P (Pure.pure a) := by
  intro s hs
  refine ⟨hs, fun a' ha => ?_⟩
  obtain rfl : a = a' := Except.ok.inj ha
  exact h

theorem throw (f : Failure) :
    Keeps I P (MonadExcept.throw f : ExceptT Failure (StateM σ) α) :=
  fun _ hs => ⟨hs, fun _ ha => nomatch ha⟩

/-- Nothing is asked. -/
theorem any (r : ExceptT Failure (StateM σ) α) : Keeps (fun _ => True) (fun _ => True) r :=
  fun _ _ => ⟨trivial, fun _ _ => trivial⟩

/-- A computation that cannot fail. -/
theorem lift {m : StateM σ α} (h : ∀ s, I s → I (m s).2 ∧ P (m s).1) :
    Keeps I P (m : ExceptT Failure (StateM σ) α) := by
  intro s hs
  refine ⟨(h s hs).1, fun a ha => ?_⟩
  obtain rfl : (m s).1 = a := Except.ok.inj ha
  exact (h s hs).2

theorem bind {next : α → ExceptT Failure (StateM σ) β} (h : Keeps I P r)
    (hnext : ∀ a, P a → Keeps I Q (next a)) : Keeps I Q (r >>= next) := by
  intro s hs
  obtain ⟨hstate, hresult⟩ := h s hs
  rcases hr : r s with ⟨f | a, t⟩
  · rw [hr] at hstate
    rw [bind_of_error hr]
    exact ⟨hstate, fun _ ha => nomatch ha⟩
  · rw [hr] at hstate hresult
    rw [bind_of_ok hr]
    exact hnext a (hresult a rfl) t hstate

end Keeps

namespace Edit

variable {I : Draft → Prop}

/-- Writing a fragment leaves the clauses as they are. -/
theorem write_keeps {r : Render α} (hI : ∀ d b, I d → I (d.withBinder b))
    (h : Keeps (fun _ => True) P r) : Keeps I P (write r) := by
  intro d hd
  exact ⟨hI d _ hd, (h d.binder trivial).2⟩

theorem change_keeps {f : Query → Query} {P : Unit → Prop}
    (h : ∀ d, I d → I { d with query := f d.query }) (hP : P ()) : Keeps I P (change f) := by
  intro d hd
  exact ⟨h d hd, fun _ _ => hP⟩

end Edit

end SqlBuilder
