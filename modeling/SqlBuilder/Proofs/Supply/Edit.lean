import SqlBuilder.Proofs.Rows.Basic
import SqlBuilder.Proofs.Supply.Condition
import SqlBuilder.Proofs.Supply.Join
import SqlBuilder.Proofs.Substitution.Edit

/-!
# Edits keep queries closed

Every edit either writes a fragment, which lets the bindings grow and touches no clause, or changes
clauses and leaves the bindings alone; only `insertBinding` stores a value of the caller's. So a
query stays closed under an edit that is given what it is supplied for, and also under one that
fails, for what it has done until then consists of such steps.
-/

namespace SqlBuilder

variable {S : String → Value → Prop} {given : List String}

theorem Query.Closed.grow {q : Query} (h : q.Closed) {lastId : Nat} {notes : List Note} {b : Binder}
    {names : List Generated} (hgrows : Binder.Grows S ⟨q.bindings, lastId, notes⟩ names b) :
    Query.Closed { q with bindings := b.bindings } where
  texts := hgrows.covers h.texts
  name := h.name

namespace Edit

theorem write_writes {α : Type} {r : Render α} {out : α → List String}
    (h : Writes S given r out) : Writes S given (write r) out where
  grows d := h.grows d.binder
  covers d hd hgiven := by
    obtain ⟨names, hnames⟩ := h.grows d.binder
    obtain ⟨-, hout⟩ := h.covers d.binder trivial hgiven
    exact ⟨Query.Closed.grow hd hnames, hout⟩
  traces T d hS hminted hlent hgiven := by
    obtain ⟨-, hout⟩ := h.traces T d.binder hS hminted (fun _ hs => nomatch hs) hgiven
    exact ⟨hlent, hout⟩

/-- A change of clauses to texts that were there or are given. -/
theorem assign_writes {f : Query → Query} (hbindings : ∀ q, (f q).bindings = q.bindings)
    (hname : ∀ q, (f q).asName = q.asName)
    (hshown : ∀ (q : Query) (b : Bindings), b.Covers q.shown → b.Covers given →
      b.Covers (f q).shown)
    (hassignments : ∀ (q : Query) (b : Bindings), b.Covers q.assignments → b.Covers given →
      b.Covers (f q).assignments) :
    Writes S given (change f) fun _ => [] where
  grows d := by
    have hbinder : Draft.binder { d with query := f d.query } = d.binder := by
      simp only [Draft.binder, hbindings]
    refine ⟨[], ?_⟩
    change Binder.Grows S d.binder [] (Draft.binder { d with query := f d.query })
    rw [hbinder]
    exact .refl _
  covers d hd hgiven := by
    refine ⟨⟨?_, ?_⟩, fun _ _ => Bindings.covers_nil _⟩
    · change (f d.query).bindings.Covers (f d.query).texts
      rw [hbindings]
      obtain ⟨hold, hset⟩ := Query.covers_texts.1 hd.texts
      exact Query.covers_texts.2 ⟨hshown _ _ hold hgiven, hassignments _ _ hset hgiven⟩
    · change ∀ name ∈ (f d.query).asName, _
      rw [hname]
      exact hd.name
  traces T d _ _ hbefore hgiven := by
    refine ⟨?_, fun _ _ _ hs => nomatch hs⟩
    obtain ⟨hold, holdName⟩ := within_append.1 hbefore
    refine within_append.2 ⟨?_, (hname d.query).symm ▸ holdName⟩
    refine Bindings.Covers.within (fun b hb => ?_) (within_append.2 ⟨hold, hgiven⟩)
    obtain ⟨hb, hb'⟩ := Bindings.covers_append.1 hb
    exact hshown d.query b hb hb'

/-- A change of other clauses than the assignments. -/
theorem change_writes {f : Query → Query} (hbindings : ∀ q, (f q).bindings = q.bindings)
    (hname : ∀ q, (f q).asName = q.asName) (hassignments : ∀ q, (f q).assignments = q.assignments)
    (hshown : ∀ (q : Query) (b : Bindings), b.Covers q.shown → b.Covers given →
      b.Covers (f q).shown) :
    Writes S given (change f) fun _ => [] :=
  assign_writes hbindings hname hshown fun q _ hq _ => (hassignments q).symm ▸ hq

/-! ## Kind and source of the statement -/

theorem act_writes (a : Action) : Writes S given (act a) fun _ => [] :=
  change_writes (fun _ => rfl) (fun _ => rfl) (fun _ => rfl) fun _ _ h _ => h

theorem insertInto_writes (mode : InsertMode) : Writes S given (insertInto mode) fun _ => [] :=
  change_writes (fun _ => rfl) (fun _ => rfl) (fun _ => rfl) fun _ _ h _ => h

theorem table_writes (name : String) (aliasName : Option String) :
    Writes S (name :: aliasName.toList) (table name aliasName) fun _ => [] := by
  refine change_writes (fun _ => rfl) (fun _ => rfl) (fun _ => rfl) fun q b => ?_
  cases aliasName <;> simp +contextual [Query.shown]

theorem database_writes (name : String) : Writes S [name] (database name) fun _ => [] :=
  change_writes (fun _ => rfl) (fun _ => rfl) (fun _ => rfl) (by simp +contextual [Query.shown])

/-- The name of a query has to be without placeholders. -/
theorem asName_writes {name : String} (h : placeholders name = []) :
    Writes S given (asName name) fun _ => [] where
  grows d := ⟨[], .refl d.binder⟩
  covers d hd _ := by
    refine ⟨⟨Query.Closed.texts (q := d.query) hd, ?_⟩, fun _ _ => Bindings.covers_nil _⟩
    intro other hother
    obtain rfl : name = other := Option.some.inj hother
    exact h
  traces T d _ _ hlent _ := by
    refine ⟨within_append.2 ⟨(within_append.1 hlent).1, fun other hother t ht => ?_⟩,
      fun _ _ _ hs => nomatch hs⟩
    obtain rfl : other = name := List.mem_singleton.1 hother
    simp [h] at ht

theorem fromSubquery_writes {q : Query} (aliasName : Option String)
    (hS : ∀ k v, q.Brings k v → S k v) :
    Writes S (q.loose ++ aliasName.toList) (fromSubquery q aliasName) fun _ => [] := by
  refine .bind (o := Option.toList) (write_writes ?_) fun text =>
    change_writes (fun _ => rfl) (fun _ => rfl) (fun _ => rfl) (by simp +contextual [Query.shown])
  refine .bind ((Query.embed_writes (q := q.under aliasName)
    fun k v h => hS k v h.of_under).widen fun b hb => ?_) fun text => .pure (by simp)
  exact Query.covers_loose_under (Bindings.covers_append.1 hb).1 (Bindings.covers_append.1 hb).2

/-! ## Columns -/

theorem leaveAllColumns_writes : Writes S given leaveAllColumns fun _ => [] := by
  refine change_writes (fun q => ?_) (fun q => ?_) (fun q => ?_) fun q b => ?_
  all_goals
    split
    · simp +contextual [Query.shown]
    · simp +contextual

theorem addColumn_writes (c : Column Query) (unique : Bool)
    (hS : ∀ q ∈ c.queries, ∀ k v, q.Brings k v → S k v) :
    Writes S c.needs (addColumn c unique) fun _ => [] := by
  refine .bind leaveAllColumns_writes fun _ =>
    .bind (write_writes ((c.text_writes hS).widen ?_)) fun text =>
      change_writes (fun q => ?_) (fun q => ?_) (fun q => ?_) fun q b => ?_
  · simp +contextual
  all_goals
    split
    · simp +contextual
    · simp +contextual [Query.shown]

theorem addColumns_writes (cs : List (Column Query))
    (hS : ∀ q ∈ cs.flatMap Column.queries, ∀ k v, q.Brings k v → S k v) :
    Writes S (cs.flatMap Column.needs) (addColumns cs) fun _ => [] := by
  induction cs with
  | nil => exact .pure fun b _ => Bindings.covers_nil b
  | cons c cs ih =>
    rw [List.flatMap_cons] at hS
    have hc := fun q hq => hS q (List.mem_append_left _ hq)
    have hcs := fun q hq => hS q (List.mem_append_right _ hq)
    refine .bind ((addColumn_writes c false hc).widen ?_) fun _ => (ih hcs).widen ?_
    all_goals simp +contextual

theorem columns_writes (cs : List (Column Query))
    (hS : ∀ q ∈ cs.flatMap Column.queries, ∀ k v, q.Brings k v → S k v) :
    Writes S (cs.flatMap Column.needs) (columns cs) fun _ => [] := by
  refine .bind (change_writes (fun _ => rfl) (fun _ => rfl) (fun _ => rfl) ?_) fun _ =>
    .bind ((addColumns_writes cs hS).widen ?_) fun _ =>
      change_writes (fun q => ?_) (fun q => ?_) (fun q => ?_) fun q b => ?_
  · simp +contextual [Query.shown]
  · simp +contextual
  all_goals
    split
    · simp +contextual [Query.shown, allColumns]
    · simp +contextual

/-- Names as columns. -/
theorem names_writes (names : List String) :
    Writes S names (columns (names.map .name)) fun _ => [] := by
  have hnone : ∀ q ∈ (names.map (Column.name (Q := Query))).flatMap Column.queries, False := by
    simp [Column.queries]
  refine (columns_writes _ fun q hq => (hnone q hq).elim).widen fun b hb => ?_
  simp only [Bindings.covers_flatMap, List.forall_mem_map]
  exact fun name hname => by
    simpa [Column.needs, Column.sqlTexts, Column.queries] using hb name hname

theorem deleteFromTables_writes (names : List String) (aliasName : Option String) :
    Writes S (names ++ aliasName.toList) (deleteFromTables names aliasName) fun _ => [] := by
  refine .bind (act_writes .delete) fun _ => ?_
  cases names with
  | nil => exact .throw _
  | cons first rest =>
    cases aliasName with
    | none => exact (names_writes (first :: rest)).widen (by simp)
    | some a =>
      refine .bind ((table_writes first (some a)).widen ?_) fun _ =>
        (names_writes (a :: rest)).widen ?_
      all_goals simp +contextual

/-! ## Assignments -/

theorem assignedText_writes (v : Operand) (modifier : Option String) :
    Writes S (v.sqlTexts ++ modifier.toList) (assignedText v modifier) fun text => [text] := by
  cases v with
  | raw sql => exact .pure (by simp +contextual [Operand.sqlTexts])
  | value v => exact Binder.bindOperand_writes (.value v) modifier
  | data v own => exact Binder.bindOperand_writes (.data v own) modifier
  | list _ | object _ => exact .throw _

theorem shown_putAssignment (column clause : String) (q : Query) :
    (putAssignment column clause q).shown = q.shown := by
  unfold putAssignment
  split <;> rfl

theorem mem_assignments_putAssignment {column clause : String} {q : Query} {s : String}
    (h : s ∈ (putAssignment column clause q).assignments) : s ∈ q.assignments ∨ s = clause := by
  unfold putAssignment at h
  split at h
  · exact List.mem_or_eq_of_mem_set h
  · simpa using h

theorem set_writes (column : String) (v : Operand) (modifier : Option String) :
    Writes S (column :: v.sqlTexts ++ modifier.toList) (set column v modifier) fun _ => [] := by
  refine .bind (write_writes ((assignedText_writes v modifier).widen ?_)) fun text =>
    assign_writes (fun q => ?_) (fun q => ?_) (fun q b hq _ => ?_) fun q b hq hgiven s hs => ?_
  · simp +contextual
  · unfold putAssignment
    split <;> rfl
  · unfold putAssignment
    split <;> rfl
  · rwa [shown_putAssignment]
  · rcases mem_assignments_putAssignment hs with hs | rfl
    · exact hq s hs
    · simp at hgiven
      exact (Bindings.supplies_glue (by decide) _ _).2 ⟨hgiven.1, hgiven.2.2.2⟩

theorem setRaw_writes (statement : String) : Writes S [statement] (setRaw statement) fun _ => [] :=
  assign_writes (fun _ => rfl) (fun _ => rfl) (fun _ _ h _ => h) (by simp +contextual)

theorem setEach_writes (modifier : Option String) (fs : List (String × Operand)) :
    Writes S (Operand.sqlTextsOfFields fs ++ modifier.toList) (setEach modifier fs)
      fun _ => [] := by
  induction fs with
  | nil => exact .pure fun b _ => Bindings.covers_nil b
  | cons f fs ih =>
    refine .bind ((set_writes f.1 f.2 modifier).widen ?_) fun _ => ih.widen ?_
    all_goals simp +contextual [Operand.sqlTextsOfFields]

theorem insertFields_writes (mode : InsertMode) (f : Fields) :
    Writes S f.sqlTexts (insertFields mode f) fun _ => [] := by
  refine .bind (insertInto_writes mode) fun _ => (setEach_writes none f.entries).widen ?_
  simp +contextual [Fields.sqlTexts]

/-! ## Rows -/

theorem addRow_writes (f : Fields) : Writes S f.keys (addRow f) fun _ => [] := by
  unfold addRow
  split
  · exact .throw _
  · refine .bind leaveAllColumns_writes fun _ =>
      change_writes (fun _ => rfl) (fun _ => rfl) (fun _ => rfl) fun q b hq hgiven s hs => ?_
    have hcolumns : s ∈ withNames q.columns f.keys → s ∈ q.columns ∨ s ∈ f.keys :=
      mem_withNames.1
    have hor : s ∈ q.shown ∨ s ∈ f.keys := by
      simp only [Query.shown, List.mem_append] at hs ⊢
      grind
    exact hor.elim (hq s) ((Bindings.covers_append.1 hgiven).1 s)

theorem mem_keys_ofPairs {ps : List (String × Operand)} {s : String}
    (h : s ∈ (Fields.ofPairs ps).keys) : s ∈ ps.map Prod.fst := by
  obtain ⟨e, he, rfl⟩ := List.mem_map.1 h
  exact List.mem_map_of_mem (Entries.mem_of_mem_ofPairs he)

theorem require_writes (holds : Bool) (f : Failure) :
    Writes S given (require holds f) fun _ => [] :=
  .ite (.pure fun b _ => Bindings.covers_nil b) (.throw f)

/-- The row under the columns of the draft. -/
theorem rowUnder_writes (columns : List String) (vs : List Operand) (holds : Bool) :
    Writes S columns (do
      require holds (.missing .rowColumns)
      addRow (.ofPairs (columns.zip vs))) fun _ => [] := by
  refine .bind (require_writes holds _) fun _ => (addRow_writes _).widen fun b hb s hs => ?_
  have hkey := mem_keys_ofPairs hs
  obtain ⟨p, hp, rfl⟩ := List.mem_map.1 hkey
  exact hb p.1 (List.mem_append_left _ (List.of_mem_zip hp).1)

/-- The columns are there already, so nothing needs to be given. -/
theorem addRowValues_writes (vs : List Operand) :
    Writes S given (addRowValues vs) fun _ => [] where
  grows d := by
    rw [addRowValues_apply]
    exact (rowUnder_writes d.query.columns vs _).grows d
  covers d hd _ := by
    rw [addRowValues_apply]
    refine (rowUnder_writes (S := S) d.query.columns vs _).covers d hd fun s hs => ?_
    exact Query.Closed.texts hd s (by simp [Query.texts, hs])
  traces T d hS hminted hlent _ := by
    rw [addRowValues_apply] at hminted ⊢
    refine (rowUnder_writes (S := S) d.query.columns vs _).traces T d hS hminted hlent
      fun s hs => ?_
    exact (within_append.1 hlent).1 s (by simp [Query.shown, hs])

/-! ## Conditions -/

theorem clearConditions_writes : Writes S given clearConditions fun _ => [] :=
  change_writes (fun _ => rfl) (fun _ => rfl) (fun _ => rfl) (by simp +contextual [Query.shown])

theorem addCondition_writes (c : Condition Query) (v : Option Operand)
    (operator modifier : Option String)
    (hS : ∀ q ∈ c.queries, ∀ k v, q.Brings k v → S k v) :
    Writes S (c.needs ++ v.toList.flatMap Operand.sqlTexts ++ operator.toList ++ modifier.toList)
      (addCondition c v operator modifier) fun _ => [] :=
  .bind (write_writes (c.text_writes v operator modifier hS)) fun _ =>
    change_writes (fun _ => rfl) (fun _ => rfl) (fun _ => rfl) (by simp +contextual [Query.shown])

theorem between_writes (field : String) (low high : Value) (modifier : Option String) :
    Writes S (field :: modifier.toList) (between field low high modifier) fun _ => [] := by
  have hlow : Writes S (field :: modifier.toList) (write (Binder.bind low modifier))
      fun text => [text] :=
    (write_writes (Binder.bind_writes low modifier)).widen (by simp +contextual)
  refine .bind hlow fun lowText => ?_
  have hhigh : Writes S (field :: modifier.toList ++ [lowText])
      (write (Binder.bind high modifier)) fun text => [text] :=
    (write_writes (Binder.bind_writes high modifier)).widen (by simp +contextual)
  refine .bind hhigh fun highText => ?_
  refine (addCondition_writes (.raw _) none none none fun q hq => nomatch hq).widen ?_
  simp +contextual (disch := decide) [Condition.needs, Condition.sqlTexts, Condition.queries]

/-- One end of a range. -/
theorem compareEnd_writes (field : String) (v : Value) (operator : String)
    (h : '{' ∉ operator.toList := by decide) :
    Writes S [field] (addCondition (.raw field) (some (.value v)) (some operator) none)
      fun _ => [] := by
  refine (addCondition_writes (.raw field) _ _ none fun q hq => nomatch hq).widen ?_
  simp +contextual [Condition.needs, Condition.sqlTexts, Condition.queries, Operand.sqlTexts, h]

theorem inRange_writes (field : String) (low high : Value) :
    Writes S [field] (inRange field low high) fun _ => [] := by
  unfold inRange
  split
  · exact .pure fun b _ => Bindings.covers_nil b
  · exact compareEnd_writes field _ ">="
  · exact compareEnd_writes field _ "<="
  · exact (between_writes field _ _ none).widen (by simp)

theorem connective_writes (c : Option Connective) : Writes S given (connective c) fun _ => [] :=
  change_writes (fun _ => rfl) (fun _ => rfl) (fun _ => rfl) fun _ _ h _ => h

/-! ## The other clauses -/

theorem join_writes (kind : Option JoinKind) (j : Join Query)
    (hS : ∀ q ∈ j.queries, ∀ k v, q.Brings k v → S k v) :
    Writes S j.needs (join kind j) fun _ => [] :=
  .bind (write_writes (j.text_writes kind hS)) fun _ =>
    change_writes (fun _ => rfl) (fun _ => rfl) (fun _ => rfl) (by simp +contextual [Query.shown])

theorem orderBy_writes (names : List String) : Writes S names (orderBy names) fun _ => [] :=
  change_writes (fun _ => rfl) (fun _ => rfl) (fun _ => rfl) (by simp +contextual [Query.shown])

theorem groupBy_writes (names : List String) : Writes S names (groupBy names) fun _ => [] :=
  change_writes (fun _ => rfl) (fun _ => rfl) (fun _ => rfl) (by simp +contextual [Query.shown])

theorem distinct_writes (enable : Bool) : Writes S given (distinct enable) fun _ => [] :=
  change_writes (fun _ => rfl) (fun _ => rfl) (fun _ => rfl) fun _ _ h _ => h

theorem boundParameters_writes (enable : Bool) :
    Writes S given (boundParameters enable) fun _ => [] :=
  change_writes (fun _ => rfl) (fun _ => rfl) (fun _ => rfl) fun _ _ h _ => h

theorem debug_writes (enable : Bool) : Writes S given (debug enable) fun _ => [] :=
  change_writes (fun _ => rfl) (fun _ => rfl) (fun _ => rfl) fun _ _ h _ => h

theorem supplies_repr {b : Bindings} (n : Nat) : b.Supplies n.repr := by
  refine Bindings.supplies_of_not_mem fun h => ?_
  rw [Nat.toList_repr] at h
  exact absurd (Nat.isDigit_of_mem_toDigits (by decide) (by decide) h) (by decide)

theorem covers_limitText {b : Bindings} (most offset : Nat) :
    b.Covers (limitText most offset).toList := by
  unfold limitText
  split
  · simp
  · split <;> simp (disch := decide) [supplies_repr]

theorem limit_writes (most offset : Nat) : Writes S given (limit most offset) fun _ => [] := by
  refine change_writes (fun _ => rfl) (fun _ => rfl) (fun _ => rfl) fun q b => ?_
  simp +contextual [Query.shown, covers_limitText]

theorem insertBinding_writes {name : String} {v : Value} (hS : S (Bindings.key name) v.stored) :
    Writes S given (insertBinding name v) fun _ => [] where
  grows _ := ⟨[], .store (.refl _) hS⟩
  covers d hd _ := by
    have hgrows : Binder.Grows S d.binder [] _ := .store (.refl _) hS
    exact ⟨Query.Closed.grow hd hgrows, fun _ _ => Bindings.covers_nil _⟩
  traces _ _ _ _ hlent _ := ⟨hlent, fun _ _ _ hs => nomatch hs⟩

theorem createBinding_writes (v : Value) (modifier : Option String) :
    Writes S modifier.toList (createBinding v modifier) fun text => [text] :=
  write_writes (Binder.bind_writes v modifier)

end Edit
end SqlBuilder
