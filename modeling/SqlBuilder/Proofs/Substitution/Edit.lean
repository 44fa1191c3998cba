import SqlBuilder.Edit
import SqlBuilder.Proofs.Substitution.Condition
import SqlBuilder.Proofs.Substitution.Join

/-!
# Alike edits

Every edit of a query is put together from two steps, and both keep drafts alike: the writing of a
fragment, since writing runs in lockstep on the bindings (`write_alike`), and a change of the
clauses. Most changes look only at clauses (`change_alike`); those that add a row or store a
binding have a proof of their own.
-/

namespace SqlBuilder

variable {σ : Substitution}

/-- The same count and notes, and queries that are alike. -/
structure Draft.Alike (σ : Substitution) (d e : Draft) : Prop where
  query : d.query.Alike σ e.query
  lastId : d.lastId = e.lastId
  notes : d.notes = e.notes

/-- The two sides of an edit run in lockstep. -/
abbrev Substitution.Edits (σ : Substitution) {α : Type} (r r' : Edit α) : Prop :=
  Lockstep (Draft.Alike σ) r r'

namespace Edit

open Query

/-! ## Steps -/

theorem write_alike {α : Type} {r r' : Render α} (h : σ.Renders r r') :
    σ.Edits (write r) (write r') := by
  intro d e hde
  have hbinder : d.binder.Alike σ e.binder := ⟨hde.query.bindings, hde.lastId, hde.notes⟩
  obtain ⟨hresult, hstate⟩ := h hbinder
  refine ⟨hresult, ⟨?_, hstate.bindings, hde.query.rows⟩, hstate.lastId, hstate.notes⟩
  show ({ e.query with bindings := _ } : Query) = _
  rw [hde.query.clauses]
  rfl

theorem change_of_alike {f g : Query → Query} (h : ∀ ⦃q r⦄, q.Alike σ r → (f q).Alike σ (g r)) :
    σ.Edits (change f) (change g) := by
  intro d e hde
  exact ⟨rfl, h hde.query, hde.lastId, hde.notes⟩

/-- A change that only looks at clauses. -/
theorem change_alike {f : Query → Query} (hf : Clausewise f) : σ.Edits (change f) (change f) :=
  change_of_alike fun _ _ h => h.map hf

theorem clausewise_ite {p : Query → Bool} {f g : Query → Query}
    (hp : ∀ q b rows, p { q with bindings := b, rows := rows } = p q) (hf : Clausewise f)
    (hg : Clausewise g) : Clausewise fun q => if p q then f q else g q := by
  intro q b rows
  simp only [hp]
  by_cases h : p q
  · rw [if_pos h, if_pos h]
    exact hf q b rows
  · rw [if_neg h, if_neg h]
    exact hg q b rows

/-! ## Source and columns -/

theorem act_alike (a : Action) : σ.Edits (act a) (act a) := change_alike fun _ _ _ => rfl

theorem table_alike (name : String) (aliasName : Option String) :
    σ.Edits (table name aliasName) (table name aliasName) :=
  change_alike fun _ _ _ => rfl

theorem fromSubquery_alike {q r : Query} (h : q.Alike σ r) (aliasName : Option String) :
    σ.Edits (fromSubquery q aliasName) (fromSubquery r aliasName) := by
  refine .bind (write_alike ?_) fun text => change_alike fun _ _ _ => rfl
  exact .bind (h.named aliasName).embed fun text => .pure (some text)

theorem leaveAllColumns_alike : σ.Edits leaveAllColumns leaveAllColumns :=
  change_alike (clausewise_ite (fun _ _ _ => rfl) (fun _ _ _ => rfl) fun _ _ _ => rfl)

theorem addColumn_alike {c d : Column Query} (h : c.Alike σ (Query.Alike σ) d) (unique : Bool) :
    σ.Edits (addColumn c unique) (addColumn d unique) := by
  unfold addColumn
  rw [← h.isName_eq]
  refine .bind leaveAllColumns_alike fun _ => ?_
  refine .bind (write_alike (Column.text_alike h)) fun text => ?_
  exact change_alike (clausewise_ite (fun _ _ _ => rfl) (fun _ _ _ => rfl) fun _ _ _ => rfl)

theorem addColumns_alike {cs ds : List (Column Query)}
    (h : List.Forall₂ (Column.Alike σ (Query.Alike σ)) cs ds) :
    σ.Edits (addColumns cs) (addColumns ds) := by
  induction h with
  | nil => exact .pure ()
  | cons h _ ih => exact .bind (addColumn_alike h false) fun _ => ih

theorem columns_alike {cs ds : List (Column Query)}
    (h : List.Forall₂ (Column.Alike σ (Query.Alike σ)) cs ds) :
    σ.Edits (columns cs) (columns ds) := by
  refine .bind (change_alike fun _ _ _ => rfl) fun _ => .bind (addColumns_alike h) fun _ => ?_
  apply change_alike
  intro q b rows
  by_cases hc : q.columns = []
  · simp only [hc, if_true]
  · simp only [hc, if_false]

theorem names_alike (names : List String) :
    List.Forall₂ (Column.Alike σ (Query.Alike σ)) (names.map .name) (names.map .name) :=
  List.forall₂_same.2 fun c hc => by
    obtain ⟨name, -, rfl⟩ := List.mem_map.1 hc
    exact .name name

theorem deleteFromTables_alike (names : List String) (aliasName : Option String) :
    σ.Edits (deleteFromTables names aliasName) (deleteFromTables names aliasName) := by
  refine .bind (act_alike _) fun _ => ?_
  cases names with
  | nil => exact .throw _
  | cons first rest =>
    cases aliasName with
    | none => exact columns_alike (names_alike _)
    | some a => exact .bind (table_alike _ _) fun _ => columns_alike (names_alike (a :: rest))

/-! ## Assignments -/

theorem assignedText_alike {v w : Operand} (h : v.Alike σ.At w) (modifier : Option String) :
    σ.Renders (assignedText v modifier) (assignedText w modifier) := by
  cases h with
  | value h => exact Binder.bindOperand_alike (.value h) modifier
  | data h own => exact Binder.bindOperand_alike (.data h own) modifier
  | raw sql => exact .pure sql
  | list h => exact .throw _
  | object names h => exact .throw _

theorem clausewise_putAssignment (column clause : String) :
    Clausewise (putAssignment column clause) := by
  intro q b rows
  simp only [putAssignment]
  cases (q.assignedAt.get? column).filter (· < q.assignments.length) with
  | none => rfl
  | some i => rfl

theorem set_alike (column : String) {v w : Operand} (h : v.Alike σ.At w)
    (modifier : Option String) : σ.Edits (set column v modifier) (set column w modifier) :=
  .bind (write_alike (assignedText_alike h modifier)) fun _ =>
    change_alike (clausewise_putAssignment _ _)

theorem setEach_alike (modifier : Option String) {fs gs : List (String × Operand)}
    (h : Entries.Alike (Operand.Alike σ.At) fs gs) :
    σ.Edits (setEach modifier fs) (setEach modifier gs) := by
  induction h with
  | nil => exact .pure ()
  | @cons f g fs gs hfg _ ih =>
    obtain ⟨column, v⟩ := f
    obtain ⟨column', w⟩ := g
    obtain ⟨rfl, hvw⟩ : column = column' ∧ v.Alike σ.At w := hfg
    exact .bind (set_alike column hvw modifier) fun _ => ih

theorem setFields_alike {f g : Fields} (h : f.Alike σ.At g) (modifier : Option String) :
    σ.Edits (setFields f modifier) (setFields g modifier) :=
  setEach_alike modifier h

/-! ## Rows -/

theorem badCell?_eq {R : Value → Value → Prop} {fs gs : List (String × Operand)}
    (h : Entries.Alike (Operand.Alike R) fs gs) : badCell? fs = badCell? gs := by
  induction h with
  | nil => rfl
  | @cons f g fs gs hfg _ ih =>
    obtain ⟨column, v⟩ := f
    obtain ⟨column', w⟩ := g
    obtain ⟨rfl, hvw⟩ : column = column' ∧ v.Alike R w := hfg
    cases hvw with
    | list h => rfl
    | object names h => rfl
    | value h => exact ih
    | data h modifier => exact ih
    | raw sql => exact ih

theorem addRow_alike {f g : Fields} (h : f.Alike (σ.Except Value.isTime) g) :
    σ.Edits (addRow f) (addRow g) := by
  unfold addRow
  rw [← badCell?_eq h, show g.keys = f.keys from h.keys_eq.symm]
  cases badCell? f.entries with
  | some column => exact .throw _
  | none =>
    refine .bind leaveAllColumns_alike fun _ => change_of_alike ?_
    intro q r hqr
    have hcolumns : q.columns = r.columns := hqr.congr Query.columns fun _ _ => rfl
    refine ⟨?_, hqr.bindings, List.rel_append hqr.rows (.cons h .nil)⟩
    rw [hcolumns, hqr.clauses]

theorem addRowValues_apply (vs : List Operand) (d : Draft) :
    addRowValues vs d =
      (do
        require (!d.query.hasAllColumns && !d.query.columns.isEmpty) (.missing .rowColumns)
        addRow (.ofPairs (d.query.columns.zip vs)) : Edit Unit) d :=
  rfl

theorem zip_alike {R : Operand → Operand → Prop} {vs ws : List Operand}
    (h : List.Forall₂ R vs ws) (names : List String) :
    Entries.Alike R (names.zip vs) (names.zip ws) := by
  induction h generalizing names with
  | nil => cases names <;> exact .nil
  | cons h _ ih =>
    cases names with
    | nil => exact .nil
    | cons name names => exact .cons ⟨rfl, h⟩ (ih names)

theorem addRowValues_alike {vs ws : List Operand}
    (h : List.Forall₂ (Operand.Alike (σ.Except Value.isTime)) vs ws) :
    σ.Edits (addRowValues vs) (addRowValues ws) := by
  intro d e hde
  have hall : d.query.hasAllColumns = e.query.hasAllColumns :=
    hde.query.congr Query.hasAllColumns fun _ _ => rfl
  have hcolumns : d.query.columns = e.query.columns :=
    hde.query.congr Query.columns fun _ _ => rfl
  rw [addRowValues_apply, addRowValues_apply, ← hall, ← hcolumns]
  refine Lockstep.bind (.ite (.pure ()) (.throw _)) ?_ hde
  intro _
  exact addRow_alike (zip_alike h _).ofPairs

/-! ## Conditions -/

theorem connective_alike (c : Option Connective) : σ.Edits (connective c) (connective c) :=
  change_alike fun _ _ _ => rfl

theorem addCondition_alike {c d : Condition Query} (h : c.Alike σ (Query.Alike σ) d)
    {v w : Option Operand} (hvw : Option.Rel (Operand.Alike σ.At) v w)
    (operator modifier : Option String) :
    σ.Edits (addCondition c v operator modifier) (addCondition d w operator modifier) :=
  .bind (write_alike (Condition.text_alike h hvw operator modifier)) fun _ =>
    change_alike fun _ _ _ => rfl

theorem between_alike (field : String) {low low' high high' : Value} (hlow : σ.At low low')
    (hhigh : σ.At high high') (modifier : Option String) :
    σ.Edits (between field low high modifier) (between field low' high' modifier) := by
  refine .bind (write_alike (Binder.bind_alike hlow modifier)) fun _ => ?_
  refine .bind (write_alike (Binder.bind_alike hhigh modifier)) fun _ => ?_
  exact addCondition_alike (.raw _) .none none none

theorem inRange_of_low (field : String) {low : Value} (h : low ≠ .null) :
    inRange field low .null =
      addCondition (.raw field) (some (.value low)) (some ">=") none := by
  cases low with
  | null => exact absurd rfl h
  | _ => rfl

theorem inRange_of_high (field : String) {high : Value} (h : high ≠ .null) :
    inRange field .null high =
      addCondition (.raw field) (some (.value high)) (some "<=") none := by
  cases high with
  | null => exact absurd rfl h
  | _ => rfl

theorem inRange_of_both (field : String) {low high : Value} (hlow : low ≠ .null)
    (hhigh : high ≠ .null) : inRange field low high = between field low high none := by
  cases low with
  | null => exact absurd rfl hlow
  | _ =>
    cases high with
    | null => exact absurd rfl hhigh
    | _ => rfl

theorem inRange_alike (field : String) {low low' high high' : Value} (hlow : σ.At low low')
    (hhigh : σ.At high high') : σ.Edits (inRange field low high) (inRange field low' high') := by
  by_cases hl : low = .null
  · have hl' : low' = .null := hlow.null_iff.1 hl
    by_cases hh : high = .null
    · rw [hl, hl', hh, hhigh.null_iff.1 hh]
      exact .pure ()
    · rw [hl, hl', inRange_of_high field hh, inRange_of_high field (mt hhigh.null_iff.2 hh)]
      exact addCondition_alike (.raw field) (.some (.value hhigh)) _ none
  · have hl' : low' ≠ .null := mt hlow.null_iff.2 hl
    by_cases hh : high = .null
    · rw [hh, hhigh.null_iff.1 hh, inRange_of_low field hl, inRange_of_low field hl']
      exact addCondition_alike (.raw field) (.some (.value hlow)) _ none
    · rw [inRange_of_both field hl hh, inRange_of_both field hl' (mt hhigh.null_iff.2 hh)]
      exact between_alike field hlow hhigh none

/-! ## Joins and bindings -/

theorem join_alike (kind : Option JoinKind) {j k : Join Query}
    (h : j.Alike σ (Query.Alike σ) k) : σ.Edits (join kind j) (join kind k) :=
  .bind (write_alike (Join.text_alike kind h)) fun _ => change_alike fun _ _ _ => rfl

theorem insertBinding_alike (name : String) {v w : Value} (h : σ.At v w) :
    σ.Edits (insertBinding name v) (insertBinding name w) := by
  apply change_of_alike
  intro q r hqr
  refine ⟨?_, hqr.bindings.insert _ h.stored, hqr.rows⟩
  rw [hqr.clauses]

theorem createBinding_alike {v w : Value} (h : σ.At v w) (modifier : Option String) :
    σ.Edits (createBinding v modifier) (createBinding w modifier) :=
  write_alike (Binder.bind_alike h modifier)

end Edit
end SqlBuilder
