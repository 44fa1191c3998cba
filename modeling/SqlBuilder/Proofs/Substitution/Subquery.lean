import SqlBuilder.Proofs.Lockstep
import SqlBuilder.Proofs.Substitution.Relation
import SqlBuilder.Subquery

/-!
# Alike queries inside queries

Two queries are alike under a substitution if they differ at most in the values behind their
bindings and in the cells of their rows. Whatever is computed from their other parts is the same
(`Query.Alike.congr`), and a change that leaves bindings and rows to themselves keeps them alike
(`Query.Alike.map`).

Writing a fragment reaches a query only through its bindings. So the two sides of a fragment run
in lockstep under `Binder.Alike`: they come to the same text, and count and note the same. This
module has the steps in which values are bound and bindings are taken over; the others are put
together from these.
-/

namespace SqlBuilder

variable {σ : Substitution}

/-! ## Queries -/

/-- The same query, except for values in bindings and in the cells of rows. A timestamp in a cell
becomes text, so it is not replaced. -/
structure Query.Alike (σ : Substitution) (q r : Query) : Prop where
  clauses : r = { q with bindings := r.bindings, rows := r.rows }
  bindings : q.bindings.Alike σ.Data r.bindings
  rows : List.Forall₂ (Fields.Alike (σ.Except Value.isTime)) q.rows r.rows

/-- The change neither reads nor writes bindings and rows. -/
def Query.Clausewise (f : Query → Query) : Prop :=
  ∀ q b rows, f { q with bindings := b, rows := rows } = { f q with bindings := b, rows := rows }

namespace Query.Alike

variable {q r : Query}

theorem refl (q : Query) : q.Alike σ q where
  clauses := rfl
  bindings := Dict.Alike.refl .same q.bindings
  rows := List.forall₂_same.2 fun f _ => Fields.Alike.refl .refl f

/-- What does not look at bindings and rows is the same on both sides. -/
theorem congr (h : q.Alike σ r) {α : Type} (f : Query → α)
    (hf : ∀ b rows, f { q with bindings := b, rows := rows } = f q) : f q = f r := by
  rw [h.clauses]
  exact (hf _ _).symm

theorem map (h : q.Alike σ r) {f : Query → Query} (hf : Clausewise f) :
    (f q).Alike σ (f r) := by
  have hq : f q = { f q with bindings := q.bindings, rows := q.rows } := hf q _ _
  have hr : f r = { f q with bindings := r.bindings, rows := r.rows } := by
    rw [← hf q, ← h.clauses]
  have hbindings : (f q).bindings = q.bindings := by rw [hq]
  have hrows : (f q).rows = q.rows := by rw [hq]
  rw [hr]
  refine ⟨rfl, ?_, ?_⟩
  · rw [hbindings]
    exact h.bindings
  · rw [hrows]
    exact h.rows

theorem group_eq (h : q.Alike σ r) : q.group = r.group := h.congr Query.group fun _ _ => rfl

theorem selectText_eq (h : q.Alike σ r) : q.selectText = r.selectText :=
  h.congr Query.selectText fun _ _ => rfl

/-- The name of the query where it is a sub-query is not touched by values. -/
theorem named (h : q.Alike σ r) (aliasName : Option String) :
    ({ q with asName := aliasName.or q.asName } : Query).Alike σ
      { r with asName := aliasName.or r.asName } :=
  h.map (f := fun q => { q with asName := aliasName.or q.asName }) fun _ _ _ => rfl

end Query.Alike

/-! ## Binding -/

/-- The same count and notes, and bindings that are alike. -/
structure Binder.Alike (σ : Substitution) (b c : Binder) : Prop where
  bindings : b.bindings.Alike σ.Data c.bindings
  lastId : b.lastId = c.lastId
  notes : b.notes = c.notes

/-- The two sides of a fragment run in lockstep. -/
abbrev Substitution.Renders (σ : Substitution) {α : Type} (r r' : Render α) : Prop :=
  Lockstep (Binder.Alike σ) r r'

namespace Binder

theorem bind_alike {v w : Value} (h : σ.At v w) (modifier : Option String) :
    σ.Renders (Binder.bind v modifier) (Binder.bind w modifier) := by
  apply Lockstep.lift
  intro b c hbc
  cases hv : inline? v with
  | some word =>
    have hw : inline? w = some word := h.inline_eq ▸ hv
    rw [bind_of_inline hv, bind_of_inline hw]
    exact ⟨rfl, hbc⟩
  | none =>
    have hw : inline? w = none := h.inline_eq ▸ hv
    rw [bind_of_not_inline hv, bind_of_not_inline hw, hbc.lastId]
    exact ⟨rfl, hbc.bindings.insert _ h.stored, rfl, hbc.notes⟩

theorem nextId_alike : σ.Renders nextId nextId := by
  apply Lockstep.lift
  intro b c hbc
  have hnext : b.lastId + 1 = c.lastId + 1 := congrArg (· + 1) hbc.lastId
  exact ⟨hnext, hbc.bindings, hnext, hbc.notes⟩

theorem absorb_alike {b c : Bindings} (h : b.Alike σ.Data c) (note : Nat → Note) :
    σ.Renders (absorb b note) (absorb c note) := by
  apply Lockstep.lift
  intro s t hst
  refine ⟨rfl, hst.bindings.merge h, hst.lastId, ?_⟩
  show s.notes ++ [note b.size] = t.notes ++ [note c.size]
  rw [hst.notes, h.size_eq]

theorem bindOperand_alike {v w : Operand} (h : v.Alike σ.At w) (modifier : Option String) :
    σ.Renders (bindOperand v modifier) (bindOperand w modifier) := by
  cases h with
  | value h => exact bind_alike h modifier
  | data h own => exact bind_alike h (own.or modifier)
  | list => exact .throw _
  | raw => exact .throw _
  | object => exact .throw _

end Binder

/-! ## Embedding -/

namespace Query.Alike

variable {q r : Query}

theorem referenced (h : q.Alike σ r) (sql : String) :
    (q.bindings.referenced sql).Alike σ.Data (r.bindings.referenced sql) :=
  h.bindings.restrict _

theorem nameInside (h : q.Alike σ r) : σ.Renders q.nameInside r.nameInside := by
  have hname : q.asName = r.asName := h.congr Query.asName fun _ _ => rfl
  unfold Query.nameInside
  rw [← hname]
  cases q.asName with
  | some name => exact .pure name
  | none => exact .bind Binder.nextId_alike fun n => .pure (Binder.nameOf "subquery" n)

theorem embed (h : q.Alike σ r) : σ.Renders q.embed r.embed := by
  have hsource : q.hasSource = r.hasSource := h.congr Query.hasSource fun _ _ => rfl
  unfold Query.embed
  rw [← hsource, ← h.selectText_eq]
  refine .ite ?_ (.throw _)
  refine .bind h.nameInside fun name => ?_
  exact .bind (Binder.absorb_alike (h.referenced _) _) fun _ => .pure _

theorem embedGroup (h : q.Alike σ r) : σ.Renders q.embedGroup r.embedGroup := by
  unfold Query.embedGroup
  rw [← h.group_eq]
  exact .bind (Binder.absorb_alike (h.referenced _) _) fun _ => .pure _

end Query.Alike
end SqlBuilder
