import SqlBuilder.Proofs.Supply.Edit

/-!
# Calls keep queries closed

A call needs its SQL text, the names it gives to sub-queries and what the queries it refers to
leave loose. It brings along the bindings of these queries and the one that it stores itself. All
that happens to the bindings of a query in a call is that they grow by what the call brings along
and by generated placeholders (`Call.run_grows`), and if what the call needs is supplied for, the
query stays closed (`Call.closed_run`).

A call whose texts have no placeholders gets placeholders into what the query lends to others from
two sources only, the queries it refers to and the counter (`Call.lent_run`).
-/

namespace SqlBuilder.Call

/-- What a call needs of the query it is made on. -/
def needs (c : Call Query) : List String := c.sqlTexts ++ c.names ++ c.queries.flatMap Query.loose

/-- The entries that can come into the bindings of a query without being generated by the call:
those of another query it refers to, and the one the caller stores. -/
inductive Brings (c : Call Query) (k : String) (v : Value) : Prop
  | query (q : Query) (hq : q ∈ c.queries) (h : q.bindings.get? k = some v)
  | stored (name : String) (w : Value) (hc : c = insertBinding name w) (hk : k = Bindings.key name)
    (hv : v = w.stored)

theorem covers_columns {b : Bindings} {cs : List (Column Query)}
    (htexts : b.Covers (cs.flatMap Column.sqlTexts))
    (hqueries : b.Covers ((cs.flatMap Column.queries).flatMap Query.loose)) :
    b.Covers (cs.flatMap Column.needs) := by
  simp only [Bindings.covers_flatMap, List.mem_flatMap] at htexts hqueries ⊢
  intro c hc
  refine Bindings.covers_append.2 ⟨htexts c hc, ?_⟩
  simpa using fun q hq => hqueries q ⟨c, hc, hq⟩

section Writes

variable {S : String → Value → Prop} {c : Call Query}
  (hname : ∀ name, c = asName name → placeholders name = [])
  (hS : ∀ q ∈ c.queries, ∀ k v, q.Brings k v → S k v)
  (hstored : ∀ name v, c = insertBinding name v → S (Bindings.key name) v.stored)
include hname hS hstored

theorem edit_writes : Writes S c.needs c.edit fun _ => [] := by
  cases c with
  | act a => exact Edit.act_writes a
  | insertInto mode => exact Edit.insertInto_writes mode
  | insertFields mode f =>
    refine (Edit.insertFields_writes mode f).widen ?_
    simp +contextual [needs, sqlTexts]
  | table name aliasName =>
    refine (Edit.table_writes name aliasName).widen ?_
    simp +contextual [needs, sqlTexts]
  | tableOf db name aliasName =>
    refine .bind ((Edit.database_writes db).widen ?_) fun _ =>
      (Edit.table_writes name aliasName).widen ?_
    all_goals simp +contextual [needs, sqlTexts]
  | actOn a name aliasName =>
    refine .bind (Edit.act_writes a) fun _ => (Edit.table_writes name aliasName).widen ?_
    simp +contextual [needs, sqlTexts]
  | deleteFromTables names aliasName =>
    refine (Edit.deleteFromTables_writes names aliasName).widen ?_
    simp +contextual [needs, sqlTexts]
  | database name =>
    refine (Edit.database_writes name).widen ?_
    simp +contextual [needs, sqlTexts]
  | asName name =>
    exact Edit.asName_writes (hname name rfl)
  | fromSubquery q aliasName =>
    refine (Edit.fromSubquery_writes aliasName (hS q (List.mem_singleton_self q))).widen ?_
    simp +contextual [needs, names, queries]
  | columns cs =>
    refine (Edit.columns_writes cs hS).widen ?_
    simp +contextual [-Bindings.covers_flatMap, needs, sqlTexts, queries, covers_columns]
  | selectColumns cs =>
    refine .bind (Edit.act_writes .select) fun _ => (Edit.columns_writes cs hS).widen ?_
    simp +contextual [-Bindings.covers_flatMap, needs, sqlTexts, queries, covers_columns]
  | addColumn column unique =>
    refine (Edit.addColumn_writes column unique hS).widen ?_
    simp +contextual [needs, Column.needs, sqlTexts, queries]
  | setRaw statement =>
    refine (Edit.setRaw_writes statement).widen ?_
    simp +contextual [needs, sqlTexts]
  | set column v modifier =>
    refine (Edit.set_writes column v modifier).widen ?_
    simp +contextual [needs, sqlTexts]
  | setFields f modifier =>
    refine (Edit.setEach_writes modifier f.entries).widen ?_
    simp +contextual [needs, sqlTexts, Fields.sqlTexts]
  | addRow f =>
    refine (Edit.addRow_writes f).widen ?_
    simp +contextual [needs, sqlTexts]
  | addRowValues vs => exact Edit.addRowValues_writes vs
  | clearConditions => exact Edit.clearConditions_writes
  | addCondition condition v operator modifier =>
    refine (Edit.addCondition_writes condition v operator modifier hS).widen ?_
    simp +contextual [needs, Condition.needs, sqlTexts, queries]
  | between field low high modifier =>
    refine (Edit.between_writes field low high modifier).widen ?_
    simp +contextual [needs, sqlTexts]
  | inRange field low high =>
    refine (Edit.inRange_writes field low high).widen ?_
    simp +contextual [needs, sqlTexts]
  | connective c => exact Edit.connective_writes _
  | comparisonMethod word => exact Edit.connective_writes _
  | join kind j =>
    refine (Edit.join_writes kind j hS).widen ?_
    simp +contextual [needs, Join.needs, sqlTexts, queries]
  | orderBy names =>
    refine (Edit.orderBy_writes names).widen ?_
    simp +contextual [needs, sqlTexts]
  | groupBy names =>
    refine (Edit.groupBy_writes names).widen ?_
    simp +contextual [needs, sqlTexts]
  | distinct enable => exact Edit.distinct_writes enable
  | boundParameters enable => exact Edit.boundParameters_writes enable
  | debug enable => exact Edit.debug_writes enable
  | limit most offset => exact Edit.limit_writes most offset
  | insertBinding name v => exact Edit.insertBinding_writes (hstored name v rfl)
  | createBinding v modifier =>
    refine .bind ((Edit.createBinding_writes v modifier).widen ?_) fun text => .pure ?_
    all_goals simp +contextual [needs, sqlTexts]

theorem run_writes : Writes S c.needs c.run fun _ => [] := by
  cases c with
  | createBinding v modifier =>
    refine .bind ((Edit.createBinding_writes v modifier).widen ?_) fun text => .pure ?_
    all_goals simp +contextual [needs, sqlTexts]
  | _ =>
    refine .bind (edit_writes hname hS hstored) fun _ => .pure ?_
    simp

end Writes

theorem run_writes_brought {c : Call Query}
    (hname : ∀ name, c = asName name → placeholders name = []) :
    Writes c.Brings c.needs c.run fun _ => [] :=
  run_writes hname (fun q hq _ _ h => .query q hq h.get?) fun name v hc => .stored name v hc rfl rfl

/-- In a call, bindings only grow. -/
theorem run_grows (c : Call Query) (d : Draft) :
    ∃ names, Binder.Grows c.Brings d.binder names (c.run d).2.binder := by
  cases c with
  | asName name => exact ⟨[], .refl _⟩
  | _ =>
    refine (run_writes_brought ?_).grows d
    exact fun _ h => nomatch h

/-- A call never sets the counter back. -/
theorem le_lastId_run (c : Call Query) (d : Draft) : d.lastId ≤ (c.run d).2.lastId := by
  obtain ⟨names, hgrows⟩ := c.run_grows d
  exact Nat.le.intro hgrows.lastId_eq.symm

/-- A call that refers to no query and stores no value of the caller's only binds values. -/
theorem run_grows_alone {c : Call Query} (hqueries : c.queries = [])
    (hstored : ∀ name v, c ≠ insertBinding name v) (d : Draft) :
    ∃ names, Binder.Grows (fun _ _ => False) d.binder names (c.run d).2.binder := by
  obtain ⟨names, hgrows⟩ := c.run_grows d
  refine ⟨names, hgrows.mono fun k v hbrings => ?_⟩
  cases hbrings with
  | query q hq _ => exact absurd (hqueries ▸ hq) List.not_mem_nil
  | stored name w hcall _ _ => exact hstored name w hcall

/-- A query stays closed under a call whose texts it is supplied for, if the queries that the call
refers to are closed and no sub-query is named by a placeholder. -/
theorem closed_run {c : Call Query} {d : Draft} (hd : d.query.Closed)
    (htexts : d.query.bindings.Covers c.sqlTexts)
    (hnames : ∀ name ∈ c.names, placeholders name = [])
    (hqueries : ∀ q ∈ c.queries, q.Closed) : (c.run d).2.query.Closed := by
  have hname : ∀ name, c = asName name → placeholders name = [] := by
    rintro name rfl
    exact hnames name (List.mem_singleton_self name)
  refine ((run_writes_brought hname).covers d hd ?_).1
  simp only [needs, Bindings.covers_append, Bindings.covers_flatMap]
  refine ⟨⟨htexts, fun name h => ?_⟩, fun q hq s hs => ?_⟩
  · exact Bindings.supplies_of_placeholders_eq_nil (hnames name h)
  · exact Bindings.supplies_of_placeholders_eq_nil ((hqueries q hq).placeholders_loose s hs)

/-- The placeholders that a query can get into another one are in the texts that it lends. -/
theorem within_loose {T : String → Prop} {q : Query} (h : Within T q.lent) : Within T q.loose := by
  have hselect : ∀ t ∈ placeholders q.selectText, T t := q.forall_mem_selectText h
  intro s hs t ht
  rcases List.mem_append.1 hs with hs | hs
  · have hmem := (List.mem_filter.1 hs).1
    rw [placeholders_of_mem hmem, List.mem_singleton] at ht
    exact ht ▸ hselect s hmem
  · exact h s (List.mem_append_right _ hs) t ht

/-- **What a query lends after a call.** If the texts of the call have no placeholders, those in the
texts that the query lends afterwards were in such a text before, of this query or of one that the
call refers to, or they are new. -/
theorem lent_run {c : Call Query} {d : Draft}
    (hplain : Within (fun _ => False) (c.sqlTexts ++ c.names)) {T : String → Prop}
    (hd : Within T d.query.lent) (hqueries : ∀ q ∈ c.queries, Within T q.lent)
    (hminted : ∀ t, d.binder.Mints (c.run d).2.binder t → T t) :
    Within T (c.run d).2.query.lent := by
  by_cases hstored : ∃ name v, c = insertBinding name v
  · obtain ⟨name, v, rfl⟩ := hstored
    exact hd
  · have hwrites : Writes (fun k _ => T k) c.needs c.run fun _ => [] := by
      refine run_writes (fun name hc => ?_) (fun q hq k v hk => ?_) fun name v hc => ?_
      · refine List.eq_nil_iff_forall_not_mem.2 fun t ht => hplain name ?_ t ht
        rw [hc]
        exact List.mem_append_right _ (List.mem_singleton_self name)
      · exact q.forall_mem_selectText (hqueries q hq) k hk.mem
      · exact absurd ⟨name, v, hc⟩ hstored
    refine (hwrites.traces T d (fun _ _ => id) hminted hd ?_).1
    refine within_append.2 ⟨fun s hs t ht => (hplain s hs t ht).elim, fun s hs => ?_⟩
    obtain ⟨q, hq, hs⟩ := List.mem_flatMap.1 hs
    exact within_loose (hqueries q hq) s hs

end SqlBuilder.Call
