import SqlBuilder.Proofs.Compile.Complete
import SqlBuilder.Proofs.Substitution.Subquery

/-!
# Alike queries compiled

Alike queries compile alike: both fail in the same way, or the data of both are the same up to the
substitution, position by position, and with bound parameters so are the texts. The statement is
written from clauses, which are the same. What remains are the two places where values come in:
the cells of rows (`insertRows_alike`) and the placeholders (`resolve_alike`).
-/

namespace SqlBuilder

variable {σ : Substitution}

/-- The same failure, or results that are related. -/
inductive Matched {ε α β : Type} (A : α → β → Prop) : Except ε α → Except ε β → Prop
  | error (e : ε) : Matched A (.error e) (.error e)
  | ok {a : α} {b : β} (h : A a b) : Matched A (.ok a) (.ok b)

theorem Matched.refl {ε α : Type} {A : α → α → Prop} (h : ∀ a, A a a) (r : Except ε α) :
    Matched A r r := by
  cases r with
  | error e => exact .error e
  | ok a => exact .ok (h a)

theorem Matched.ofOption {ε α β : Type} {A : α → β → Prop} {a : Option α} {b : Option β}
    (h : Option.Rel A a b) (e : ε) : Matched A (a.elim (.error e) .ok) (b.elim (.error e) .ok) := by
  cases h with
  | none => exact .error e
  | some h => exact .ok h

theorem Matched.imp {ε α β : Type} {A B : α → β → Prop} {r : Except ε α} {r' : Except ε β}
    (h : Matched A r r') (hAB : ∀ a b, A a b → B a b) : Matched B r r' := by
  cases h with
  | error e => exact .error e
  | ok h => exact .ok (hAB _ _ h)

theorem Matched.bind {ε α β γ δ : Type} {A : α → β → Prop} {B : γ → δ → Prop} {r : Except ε α}
    {r' : Except ε β} {f : α → Except ε γ} {g : β → Except ε δ} (h : Matched A r r')
    (hfg : ∀ a b, A a b → Matched B (f a) (g b)) : Matched B (r.bind f) (r'.bind g) := by
  cases h with
  | error e => exact .error e
  | ok h => exact hfg _ _ h

/-- Data that are the same up to the substitution, under the same text if it has marks. -/
structure Compiled.Alike (σ : Substitution) (marks : Bool) (c d : Compiled) : Prop where
  query : marks = true → c.query = d.query
  data : List.Forall₂ σ.Data c.data d.data

/-- The same text, with its placeholders or with the values of its rows. -/
inductive Query.Written.Alike (σ : Substitution) : Written → Written → Prop
  | template (sql : String) : Alike σ (.template sql) (.template sql)
  | final {c d : Compiled} (h : c.Alike σ true d) : Alike σ (.final c) (.final d)

namespace Query

/-! ## Rows -/

/-- The same text in a cell, with values that are the same up to the substitution. -/
def CellAlike (σ : Substitution) (x y : String × List Value) : Prop :=
  x.1 = y.1 ∧ List.Forall₂ σ.Data x.2 y.2

theorem CellAlike.refl (x : String × List Value) : CellAlike σ x x :=
  ⟨rfl, List.forall₂_same.2 fun v _ => .same v⟩

theorem cellOfValue_of_bound {v : Value} (h : Binder.inline? v = none) (ht : v.isTime = false) :
    cellOfValue v = ("?", [v.stored]) := by
  cases v with
  | null => cases h
  | bool b => cases b <;> cases h
  | time t => cases ht
  | _ => rfl

theorem cellOfValue_alike {v w : Value} (h : σ.Except Value.isTime v w) :
    CellAlike σ (cellOfValue v) (cellOfValue w) := by
  rcases h with rfl | ⟨h, hv, hw⟩
  · exact .refl _
  · rw [cellOfValue_of_bound (σ.bound h).1 hv, cellOfValue_of_bound (σ.bound h).2 hw]
    exact ⟨rfl, .cons (.replaced h) .nil⟩

theorem cell_alike {v w : Option Operand}
    (h : Option.Rel (Operand.Alike (σ.Except Value.isTime)) v w) :
    CellAlike σ (cell v) (cell w) := by
  cases h with
  | none => exact .refl _
  | some h =>
    cases h with
    | value h => exact cellOfValue_alike h
    | data h modifier => exact cellOfValue_alike h
    | raw sql => exact .refl _
    | list h => exact .refl _
    | object names h => exact .refl _

theorem cells_alike (columns : List String) {f g : Fields}
    (h : f.Alike (σ.Except Value.isTime) g) :
    List.Forall₂ (CellAlike σ) (cells columns f) (cells columns g) := by
  refine List.forall₂_map_left_iff.2 (List.forall₂_map_right_iff.2 ?_)
  exact List.forall₂_same.2 fun c _ => cell_alike (h.get? c)

theorem rowText_eq {xs ys : List (String × List Value)} (h : List.Forall₂ (CellAlike σ) xs ys) :
    rowText xs = rowText ys := by
  have hfst : xs.map Prod.fst = ys.map Prod.fst := by
    induction h with
    | nil => rfl
    | cons h _ ih => exact congrArg₂ List.cons h.1 ih
  rw [rowText, rowText, hfst]

theorem insertRows_alike {q r : Query} (h : q.Alike σ r) :
    q.insertRows.Alike σ true r.insertRows := by
  have hrows : List.Forall₂ (List.Forall₂ (CellAlike σ)) (q.rows.map (cells q.columns))
      (r.rows.map (cells r.columns)) := by
    rw [← h.congr Query.columns fun _ _ => rfl]
    exact List.rel_map (fun _ _ hfg => cells_alike q.columns hfg) h.rows
  have htexts : (q.rows.map (cells q.columns)).map rowText =
      (r.rows.map (cells r.columns)).map rowText := by
    generalize q.rows.map (cells q.columns) = xs, r.rows.map (cells r.columns) = ys at hrows
    induction hrows with
    | nil => rfl
    | cons hxy _ ih => exact congrArg₂ List.cons (rowText_eq hxy) ih
  refine ⟨fun _ => ?_, ?_⟩
  · have hmode : q.insertMode = r.insertMode := h.congr Query.insertMode fun _ _ => rfl
    have hsource : q.source = r.source := h.congr Query.source fun _ _ => rfl
    have hcolumns : q.chosenColumns = r.chosenColumns := h.congr Query.chosenColumns fun _ _ => rfl
    simp only [insertRows, htexts, hmode, hsource, hcolumns]
  · exact List.rel_flatMap hrows fun _ _ hxy => List.rel_flatMap hxy fun _ _ h => h.2

/-! ## Placeholders -/

theorem resolve_alike {q r : Query} (h : q.Alike σ r) (sql : String) :
    Matched (Compiled.Alike σ q.boundParameters) (q.resolve sql) (r.resolve sql) := by
  have hmode : q.boundParameters = r.boundParameters :=
    h.congr Query.boundParameters fun _ _ => rfl
  have hmissing : (fun k => (q.bindings.get? k).isNone) = fun k => (r.bindings.get? k).isNone := by
    funext k
    exact match q.bindings.get? k, r.bindings.get? k, h.bindings.get? k with
      | _, _, .none => rfl
      | _, _, .some _ => rfl
  have hdata (ts : List String) :
      List.Forall₂ σ.Data (ts.filterMap q.bindings.get?) (ts.filterMap r.bindings.get?) := by
    refine List.rel_filterMap ?_ (List.forall₂_eq_eq_eq ▸ rfl)
    rintro t _ rfl
    exact h.bindings.get? t
  unfold resolve
  simp only [← hmode, ← hmissing]
  split
  · exact .error _
  · by_cases hb : q.boundParameters
    · rw [if_pos hb, if_pos hb]
      exact .ok ⟨fun _ => rfl, hdata _⟩
    · rw [if_neg hb, if_neg hb]
      exact .ok ⟨fun hmarks => absurd hmarks hb, .nil⟩

/-! ## Statements -/

theorem statementText_eq {q r : Query} (h : q.Alike σ r) (a : Action) :
    q.statementText a = r.statementText a := by
  refine h.congr (fun q => q.statementText a) ?_
  intro b rows
  cases a <;> rfl

theorem write_alike {q r : Query} (h : q.Alike σ r) (a : Action) :
    Matched (Written.Alike σ) (q.write a) (r.write a) := by
  have hset : q.assignments = r.assignments := h.congr Query.assignments fun _ _ => rfl
  have hwhere : q.conditions = r.conditions := h.congr Query.conditions fun _ _ => rfl
  have htext := statementText_eq h a
  cases a with
  | select =>
    rw [write, write, ← h.selectText_eq]
    exact .ok (.template _)
  | insert =>
    have hrows : q.rows.isEmpty = r.rows.isEmpty := by
      rw [Bool.eq_iff_iff, List.isEmpty_iff_length_eq_zero, List.isEmpty_iff_length_eq_zero,
        h.rows.length_eq]
    rw [write_insert, write_insert, ← hrows, ← hset, ← htext]
    split_ifs
    · exact .ok (.template _)
    · exact .error _
    · exact .ok (.final (insertRows_alike h))
  | update =>
    rw [write_update, write_update, ← hset, ← hwhere, ← htext]
    split_ifs
    · exact .ok (.template _)
    · exact .error _
    · exact .error _
  | delete =>
    rw [write_delete, write_delete, ← hwhere, ← htext]
    split_ifs
    · exact .ok (.template _)
    · exact .error _

theorem written_alike {q r : Query} (h : q.Alike σ r) :
    Matched (Written.Alike σ) q.written r.written := by
  have hsource : q.hasSource = r.hasSource := h.congr Query.hasSource fun _ _ => rfl
  have haction : q.action = r.action := h.congr Query.action fun _ _ => rfl
  unfold written
  rw [← haction, ← hsource]
  cases q.action with
  | none => exact .error _
  | some a =>
    by_cases hs : q.hasSource
    · simp only [hs, if_true]
      exact write_alike h a
    · simp only [hs]
      exact .error _

/-- **Alike queries compile alike.** -/
theorem compile_alike {q r : Query} (h : q.Alike σ r) :
    Matched (Compiled.Alike σ q.boundParameters) q.compile r.compile := by
  rw [compile_eq, compile_eq]
  refine (written_alike h).bind ?_
  intro w x hwx
  cases hwx with
  | template sql => exact resolve_alike h sql
  | final hcd => exact .ok ⟨fun _ => hcd.query rfl, hcd.data⟩

end Query
end SqlBuilder
