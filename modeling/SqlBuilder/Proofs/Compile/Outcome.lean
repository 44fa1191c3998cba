import SqlBuilder.Proofs.Compile.Resolution
import SqlBuilder.Proofs.Placeholder.Composed

/-!
# What compiling comes to

Compiling a query has three ends: a statement, the complaint that something the statement needs is
missing, and the complaint that a placeholder has no value. `Query.Formed` says what a statement of
each kind needs, and `Query.asked` which placeholders it asks for. The two decide on the end
(`Query.compile_cases`), and in this order: where something is missing, no placeholder is looked at.

Whatever else a query holds is without effect. `Query.inFrontOf` puts a query in front of another
one, so that of the other all is left that the statement does not show; the end is still that of the
query in front (`Query.compile_inFrontOf`). The choice between marks and literals changes what is
written in the place of a value, and not whether there is one
(`Query.resolve_withBound_eq_error_iff`).
-/

namespace SqlBuilder.Query

open Placeholder

variable {q : Query}

/-! ## What a statement needs -/

/-- There is a table with a name, or a sub-query to read from. -/
def SourceSet (q : Query) : Prop :=
  (∃ name, q.tableName = some name ∧ name ≠ "") ∨ ∃ text, q.subquery = some text

/-- What a statement of the kind needs besides its source. Rows make assignments unnecessary. -/
def Provides (q : Query) : Action → Prop
  | .select => True
  | .update => q.assignments ≠ [] ∧ q.conditions ≠ []
  | .delete => q.conditions ≠ []
  | .insert => q.rows ≠ [] ∨ q.assignments ≠ []

/-- The query says what to do, on what, and has what that needs. -/
def Formed (q : Query) : Prop := ∃ a, q.action = some a ∧ q.SourceSet ∧ q.Provides a

/-- The placeholders that a statement asks for. An insert with rows asks for none. -/
def asked (q : Query) : List String :=
  match q.action with
  | none => []
  | some a => if a = .insert ∧ q.rows ≠ [] then [] else placeholders (q.statementText a)

theorem hasSource_iff : q.hasSource = true ↔ q.SourceSet := by
  rw [hasSource, Bool.or_eq_true, Option.any_eq_true, Option.isSome_iff_exists, SourceSet]
  simp only [decide_eq_true_eq]

theorem Complete.formed {a : Action} (h : q.Complete a) : q.Formed := by
  refine ⟨a, h.action, hasSource_iff.1 h.source, ?_⟩
  have hclauses := h.clauses
  cases a with
  | select => trivial
  | insert => exact .inr hclauses.2
  | update => exact hclauses
  | delete => exact hclauses

theorem WritesRows.formed (h : q.WritesRows) : q.Formed :=
  ⟨.insert, h.action, hasSource_iff.1 h.source, .inl h.rows⟩

theorem Complete.asked_eq {a : Action} (h : q.Complete a) :
    q.asked = placeholders (q.statementText a) := by
  have hrows : ¬ (a = .insert ∧ q.rows ≠ []) := by
    rintro ⟨rfl, hrows⟩
    exact hrows h.clauses.1
  simp only [asked, h.action, if_neg hrows]

theorem WritesRows.asked_eq (h : q.WritesRows) : q.asked = [] := by
  simp only [asked, h.action, true_and, if_pos h.rows]

/-! ## The three ends -/

/-- The text of a statement is refused only where something is missing. -/
theorem written_eq_error {f : Failure} (h : q.written = .error f) :
    (∃ w, f = .missing w) ∧ ¬ q.Formed := by
  unfold written at h
  split at h
  · rename_i hnone
    cases h
    exact ⟨⟨_, rfl⟩, fun ⟨a, ha, _⟩ => by rw [hnone] at ha; cases ha⟩
  · rename_i a ha
    -- A formed query has this action and provides what it needs.
    have hprovides (hformed : q.Formed) : q.SourceSet ∧ q.Provides a := by
      obtain ⟨b, hb, hsource, hprovided⟩ := hformed
      obtain rfl : a = b := Option.some.inj (ha.symm.trans hb)
      exact ⟨hsource, hprovided⟩
    split at h
    · cases a with
      | select => cases h
      | insert =>
        rw [write_insert] at h
        split_ifs at h with hrows hset
        cases h
        exact ⟨⟨_, rfl⟩, fun hformed => (hprovides hformed).2.elim
          (fun hne => hne (by simpa using hrows)) fun hne => hne (by simpa using hset)⟩
      | update =>
        rw [write_update] at h
        split_ifs at h with hset hwhere
        · cases h
          exact ⟨⟨_, rfl⟩, fun hformed => (hprovides hformed).2.2 (by simpa using hwhere)⟩
        · cases h
          exact ⟨⟨_, rfl⟩, fun hformed => (hprovides hformed).2.1 (by simpa using hset)⟩
      | delete =>
        rw [write_delete] at h
        split_ifs at h with hwhere
        cases h
        exact ⟨⟨_, rfl⟩, fun hformed => (hprovides hformed).2 (by simpa using hwhere)⟩
    · rename_i hsource
      cases h
      exact ⟨⟨_, rfl⟩, fun hformed => hsource (hasSource_iff.2 (hprovides hformed).1)⟩

/-- One of three things is true of a query, and each comes with what compiling it comes to. -/
theorem compile_cases (q : Query) :
    (¬ q.Formed ∧ ∃ w, q.compile = .error (.missing w)) ∨
      (q.Formed ∧ q.Stores q.asked ∧ ∃ c, q.compile = .ok c) ∨
      (q.Formed ∧ ¬ q.Stores q.asked ∧ ∃ t, q.compile = .error (.unbound t)) := by
  cases hw : q.written with
  | error f =>
    obtain ⟨⟨w, rfl⟩, hformed⟩ := written_eq_error hw
    exact .inl ⟨hformed, w, by rw [compile_eq, hw]; rfl⟩
  | ok written =>
    rcases written_eq_ok hw with ⟨a, hq, -⟩ | ⟨hrows, -⟩
    · rw [hq.compile_eq, hq.asked_eq]
      by_cases hstores : q.Stores (placeholders (q.statementText a))
      · obtain ⟨vs, hvs⟩ := hstores.exists_values
        exact .inr (.inl ⟨hq.formed, hstores, _, resolve_of_stored hvs⟩)
      · obtain ⟨before, t, after, hts, hbefore, ht⟩ := exists_first_missing hstores
        exact .inr (.inr ⟨hq.formed, hstores, t, resolve_of_missing hts hbefore ht⟩)
    · refine .inr (.inl ⟨hrows.formed, ?_, _, hrows.compile_eq⟩)
      rw [hrows.asked_eq]
      exact fun t ht => absurd ht List.not_mem_nil

/-! ## What a statement does not show -/

/-- The query with its values as marks or as literals. -/
def withBound (q : Query) (bound : Bool) : Query := { q with boundParameters := bound }

theorem resolve_withBound_eq_error_iff (q : Query) (bound : Bool) (sql : String) (f : Failure) :
    (q.withBound bound).resolve sql = .error f ↔ q.resolve sql = .error f := by
  unfold resolve withBound
  dsimp only
  split
  · rfl
  · refine iff_of_false ?_ ?_ <;> split_ifs <;> exact fun h => nomatch h

/-- Whether values are marks or literals has no part in a failure. -/
theorem compile_withBound_eq_error_iff (q : Query) (bound : Bool) (f : Failure) :
    (q.withBound bound).compile = .error f ↔ q.compile = .error f := by
  rw [compile_eq, compile_eq]
  change q.written.bind (q.withBound bound).finish = .error f ↔ _
  cases q.written with
  | error g => rfl
  | ok w =>
    cases w with
    | template sql => exact resolve_withBound_eq_error_iff q bound sql f
    | final compiled => rfl

/-- Another query with the action and the source of this one. A sub-query hides the table. -/
def sourceInFrontOf (q other : Query) : Query :=
  match q.subquery with
  | some text => { other with action := q.action, subquery := some text }
  | none =>
    { other with
      action := q.action
      subquery := none
      database := q.database
      tableName := q.tableName
      aliasName := q.aliasName }

/-- The query in front of another one: all that its statement does not show comes from the other,
the settings included. -/
def inFrontOf (q other : Query) : Query :=
  let r := q.sourceInFrontOf other
  match q.action with
  | none => r
  | some .select =>
    { r with
      columns := q.columns
      distinct := q.distinct
      joins := q.joins
      conditions := q.conditions
      connective := q.connective
      groupBy := q.groupBy
      orderBy := q.orderBy
      limit := q.limit
      bindings := q.bindings }
  | some .insert =>
    if q.rows = [] then
      { r with
        insertMode := q.insertMode
        rows := []
        assignments := q.assignments
        bindings := q.bindings }
    else { r with insertMode := q.insertMode, rows := q.rows, columns := q.columns }
  | some .update =>
    { r with
      joins := q.joins
      assignments := q.assignments
      conditions := q.conditions
      connective := q.connective
      bindings := q.bindings }
  | some .delete =>
    { r with
      columns := q.columns
      joins := q.joins
      conditions := q.conditions
      connective := q.connective
      bindings := q.bindings }

theorem action_inFrontOf (q other : Query) : (q.inFrontOf other).action = q.action := by
  have hsource : (q.sourceInFrontOf other).action = q.action := by
    unfold sourceInFrontOf
    split <;> rfl
  unfold inFrontOf
  dsimp only
  split <;> try split
  all_goals exact hsource

theorem hasSource_inFrontOf (q other : Query) : (q.inFrontOf other).hasSource = q.hasSource := by
  have hsource : (q.sourceInFrontOf other).hasSource = q.hasSource := by
    unfold sourceInFrontOf hasSource
    split <;> rename_i h
    · simp [h]
    · rw [h]
  unfold inFrontOf
  dsimp only
  split <;> try split
  all_goals exact hsource

/-- The text of a statement is written from what the statement shows. -/
theorem write_inFrontOf {a : Action} (ha : q.action = some a) (other : Query) :
    (q.inFrontOf other).write a = q.write a := by
  obtain ⟨action, insertMode, database, tableName, aliasName, subquery, asName, columns,
    conditions, connective, assignments, assignedAt, joins, orderBy, groupBy, distinct, limit, rows,
    bindings, boundParameters, debug⟩ := q
  obtain rfl : action = some a := ha
  cases a <;> cases subquery <;> cases rows <;> rfl

theorem written_inFrontOf (q other : Query) : (q.inFrontOf other).written = q.written := by
  rw [written, written, action_inFrontOf]
  cases ha : q.action with
  | none => rfl
  | some a => simp only [hasSource_inFrontOf, write_inFrontOf ha]

/-- A text with placeholders is resolved with the values of the query in front. -/
theorem bindings_inFrontOf {a : Action} (h : q.Complete a) (other : Query) :
    (q.inFrontOf other).bindings = q.bindings := by
  have ha := h.action
  cases a with
  | insert => simp only [inFrontOf, ha, if_pos h.clauses.1]
  | select | update | delete => simp only [inFrontOf, ha]

/-- What a statement does not show has no part in what compiling comes to. -/
theorem compile_inFrontOf (q other : Query) :
    ((q.inFrontOf other).withBound q.boundParameters).compile = q.compile := by
  rw [compile_eq, compile_eq]
  change (q.inFrontOf other).written.bind
    ((q.inFrontOf other).withBound q.boundParameters).finish = _
  rw [written_inFrontOf]
  cases hw : q.written with
  | error f => rfl
  | ok w =>
    rcases written_eq_ok hw with ⟨a, hq, rfl⟩ | ⟨-, rfl⟩
    · change Query.resolve _ _ = q.resolve _
      unfold resolve withBound
      simp only [bindings_inFrontOf hq]
    · rfl

/-! ## When a query compiles -/

/-- **A query compiles exactly when it should.** It compiles if it says what to do and on what, has
what that needs, and stores a value for every placeholder that the statement asks for. Otherwise
something is reported as missing if the first of these fails, whatever is stored, and a placeholder
without a value only if it holds. What the statement does not show has no part in this, and neither
has a setting: with other clauses out of sight and other settings there are the same failures, and
with the same choice of marks or literals there is the same statement. -/
theorem compiles_exactly (q : Query) :
    ((∃ c, q.compile = .ok c) ↔ q.Formed ∧ q.Stores q.asked) ∧
      ((∃ w, q.compile = .error (.missing w)) ↔ ¬ q.Formed) ∧
      ((∃ t, q.compile = .error (.unbound t)) ↔ q.Formed ∧ ¬ q.Stores q.asked) ∧
      ∀ other, (∀ f, (q.inFrontOf other).compile = .error f ↔ q.compile = .error f) ∧
        ((q.inFrontOf other).withBound q.boundParameters).compile = q.compile := by
  have hother (other : Query) (f : Failure) :
      (q.inFrontOf other).compile = .error f ↔ q.compile = .error f := by
    rw [← compile_inFrontOf q other, compile_withBound_eq_error_iff]
  refine ⟨?_, ?_, ?_, fun other => ⟨hother other, compile_inFrontOf q other⟩⟩
  all_goals
    rcases q.compile_cases with ⟨hformed, w, hc⟩ | ⟨hformed, hstores, c, hc⟩ |
      ⟨hformed, hstores, t, hc⟩
  all_goals simp [*]

/-- A deletion with placeholders out of sight that have no value. -/
def strayPlaceholders : Query where
  action := some .delete
  tableName := some "t"
  conditions := ["a = {{x}}"]
  assignments := ["b = {{y}}"]
  orderBy := ["{{z}}"]
  bindings := Bindings.put .empty "x" (.int 1)

theorem compiles_exactly_strayPlaceholders :
    (∃ c, strayPlaceholders.compile = .ok c) ∧
      (∃ t, { strayPlaceholders with bindings := .empty }.compile = .error (.unbound t)) ∧
      ∃ w, { strayPlaceholders with conditions := [], bindings := .empty }.compile =
        .error (.missing w) := by
  have hformed (b : Bindings) : { strayPlaceholders with bindings := b }.Formed :=
    ⟨.delete, rfl, .inl ⟨"t", rfl, by decide⟩, List.cons_ne_nil _ _⟩
  refine ⟨(compiles_exactly _).1.2 ⟨hformed _, ?_⟩,
    (compiles_exactly _).2.2.1.2 ⟨hformed _, ?_⟩, (compiles_exactly _).2.1.2 ?_⟩
  · unfold Stores
    decide +kernel
  · unfold Stores
    decide +kernel
  · rintro ⟨a, ha, -, hprovided⟩
    obtain rfl : Action.delete = a := Option.some.inj ha
    exact hprovided rfl

end SqlBuilder.Query
