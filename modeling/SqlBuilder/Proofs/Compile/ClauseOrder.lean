import SqlBuilder.Proofs.Compile.Resolution
import SqlBuilder.Proofs.Placeholder.Composed

/-!
# Data in the order of the clauses

The data of a compiled query follow the order in which the clauses stand in the statement, however
the calls that filled the clauses were ordered. Two facts make this up. The placeholders of the
statement are those of its fragments, each read on its own (`placeholders_statementText`), and the
data are the values of the placeholders of the statement.
-/

namespace SqlBuilder.Query

open Placeholder

/-- The fragments that make up the source of a statement. -/
def sourceFragments (q : Query) : List String :=
  match q.subquery with
  | some s => [s]
  | none => q.database.toList ++ [q.tableName.getD ""] ++ q.aliasName.toList

/-- The columns that a deletion names: all that were chosen. -/
def namedColumns (q : Query) : List String := if q.hasAllColumns then [] else q.columns

/-- The fragments of a statement in the order of its clauses. -/
def fragments (q : Query) : Action → List String
  | .select => q.columns ++ q.sourceFragments ++ q.joins ++ q.conditions ++ q.groupBy ++
      q.orderBy ++ q.limit.toList
  | .insert => q.sourceFragments ++ q.assignments
  | .update => q.sourceFragments ++ q.joins ++ q.assignments ++ q.conditions
  | .delete => q.namedColumns ++ q.sourceFragments ++ q.joins ++ q.conditions

/-! ## The placeholders of each clause -/

theorem placeholders_source (q : Query) :
    placeholders q.source = q.sourceFragments.flatMap placeholders := by
  unfold source sourceFragments
  cases q.subquery with
  | none => exact placeholders_table _ _ _
  | some s => simp

theorem placeholders_conditionText (q : Query) :
    placeholders q.conditionText = q.conditions.flatMap placeholders :=
  placeholders_intercalate (separates_connective _) _

theorem placeholders_conditionClause (q : Query) :
    q.conditionClause.flatMap placeholders = q.conditions.flatMap placeholders := by
  have hwhere : placeholders "WHERE" = [] := placeholders_of_not_mem (by decide)
  unfold conditionClause
  by_cases h : q.conditions = []
  · rw [if_pos h, h]
  · rw [if_neg h]
    simp [hwhere, placeholders_conditionText]

theorem placeholders_listClause {keyword : String} (h : placeholders keyword = [])
    (parts : List String) :
    (listClause keyword parts).flatMap placeholders = parts.flatMap placeholders := by
  unfold listClause
  by_cases hparts : parts = []
  · rw [if_pos hparts, hparts]
  · rw [if_neg hparts]
    simp [h, placeholders_listed]

theorem placeholders_selection (q : Query) :
    placeholders q.selection = q.columns.flatMap placeholders := by
  have hdistinct : "DISTINCT " = "DISTINCT" ++ " " := by decide
  have hword : placeholders "DISTINCT" = [] := placeholders_of_not_mem (by decide)
  unfold selection
  by_cases h : q.distinct
  · rw [if_pos h, hdistinct, separates_blank, hword, placeholders_listed, List.nil_append]
  · rw [if_neg h, placeholders_listed]

theorem placeholders_star : placeholders "*" = [] := placeholders_of_not_mem (by decide)

/-- A column list that is not written out has no placeholders. -/
theorem placeholders_chosenColumns (q : Query) :
    q.chosenColumns.flatMap placeholders = q.columns.flatMap placeholders := by
  unfold chosenColumns
  by_cases h : listed q.columns = "" ∨ listed q.columns = "*"
  · rw [if_pos h, List.flatMap_nil, ← placeholders_listed]
    rcases h with h | h
    · rw [h, placeholders_empty]
    · rw [h, placeholders_star]
  · rw [if_neg h, List.flatMap_singleton, placeholders_listed]

theorem placeholders_namedColumns (q : Query) :
    q.namedColumns.flatMap placeholders = q.columns.flatMap placeholders := by
  unfold namedColumns hasAllColumns
  by_cases h : q.columns = allColumns
  · simp [h, allColumns, placeholders_star]
  · simp [h]

/-- No placeholder is formed or destroyed where fragments meet. -/
theorem placeholders_statementText (q : Query) (a : Action) :
    placeholders (q.statementText a) = (q.fragments a).flatMap placeholders := by
  have keyword (k : String) (h : '{' ∉ k.toList := by decide) : placeholders k = [] :=
    placeholders_of_not_mem h
  cases a with
  | select =>
    simp [statementText, selectText, selectParts, fragments, placeholders_spaced,
      placeholders_source, placeholders_selection, placeholders_conditionClause,
      placeholders_listClause, keyword "SELECT", keyword "FROM", keyword "GROUP BY",
      keyword "ORDER BY"]
  | insert =>
    have hmode : placeholders q.insertMode.keyword = [] := by
      cases q.insertMode <;> exact keyword _
    simp [statementText, insertParts, fragments, placeholders_spaced, placeholders_source,
      placeholders_listed, hmode, keyword "INTO", keyword "SET"]
  | update =>
    simp [statementText, updateParts, fragments, placeholders_spaced, placeholders_source,
      placeholders_listed, placeholders_conditionText, keyword "UPDATE", keyword "SET",
      keyword "WHERE"]
  | delete =>
    simp [statementText, deleteParts, fragments, placeholders_spaced, placeholders_source,
      placeholders_chosenColumns, placeholders_namedColumns, placeholders_conditionText,
      keyword "DELETE", keyword "FROM", keyword "WHERE"]

/-! ## The data -/

/-- The data of a compiled statement are the values of its placeholders. -/
theorem data_eq_of_resolve {q : Query} {sql : String} {c : Compiled}
    (hb : q.boundParameters = true) (h : q.resolve sql = .ok c) :
    c.data.map some = (placeholders sql).map q.bindings.get? := by
  by_cases hs : q.Stores (placeholders sql)
  · obtain ⟨vs, hvs⟩ := hs.exists_values
    rw [resolve_of_stored hvs] at h
    cases h
    rw [handedOut, if_pos hb, hvs]
  · obtain ⟨before, t, after, hts, hbefore, ht⟩ := exists_first_missing hs
    rw [resolve_of_missing hts hbefore ht] at h
    cases h

/-- A query that compiles, and is no insert with rows, is complete. -/
theorem complete_of_compile {q : Query} {a : Action} {c : Compiled} (ha : q.action = some a)
    (hrows : a = .insert → q.rows = []) (hc : q.compile = .ok c) : q.Complete a := by
  rw [compile_eq] at hc
  cases hw : q.written with
  | error f =>
    rw [hw] at hc
    cases hc
  | ok w =>
    rcases written_eq_ok hw with ⟨b, hq, -⟩ | ⟨h, -⟩
    · obtain rfl : b = a := Option.some.inj (hq.action.symm.trans ha)
      exact hq
    · obtain rfl : a = .insert := Option.some.inj (ha.symm.trans h.action)
      exact absurd (hrows rfl) h.rows

/-- **Data come in the order of the clauses.** If a query that is no insert with rows compiles
with bound parameters, its data are the values of the placeholders of its fragments, fragment by
fragment in the order of the clauses; and the statement has no other placeholders than these. -/
theorem data_in_clause_order {q : Query} {a : Action} {c : Compiled}
    (hb : q.boundParameters = true) (ha : q.action = some a) (hrows : a = .insert → q.rows = [])
    (hc : q.compile = .ok c) :
    c.data.map some = (q.fragments a).flatMap (fun s => (placeholders s).map q.bindings.get?) ∧
      placeholders (q.statementText a) = (q.fragments a).flatMap placeholders := by
  have hq := complete_of_compile ha hrows hc
  rw [hq.compile_eq] at hc
  refine ⟨?_, q.placeholders_statementText a⟩
  rw [data_eq_of_resolve hb hc, placeholders_statementText, List.map_flatMap]

/-- A query in which two conditions meet between the halves of a placeholder. -/
def dividedQuery : Query where
  action := some .select
  tableName := some "t{{x}}"
  conditions := ["a = '\x7b\x7b'", "'\x7d\x7d' = {{x}}"]
  joins := ["JOIN u ON {{y}}"]
  bindings := Bindings.put (Bindings.put .empty "x" (.int 1)) "y" (.int 2)

theorem dividedQuery_data :
    dividedQuery.boundParameters = true ∧ dividedQuery.action = some .select ∧
      (Action.select = .insert → dividedQuery.rows = []) ∧
      ∃ c, dividedQuery.compile = .ok c ∧
        (c.data.map some = (dividedQuery.fragments .select).flatMap
            (fun s => (placeholders s).map dividedQuery.bindings.get?) ∧
          placeholders (dividedQuery.statementText .select) =
            (dividedQuery.fragments .select).flatMap placeholders) ∧
        c.data = [.int 1, .int 2, .int 1] := by
  have hrows : Action.select = .insert → dividedQuery.rows = [] := fun _ => rfl
  have hcompile : dividedQuery.compile =
      .ok ⟨"SELECT * FROM `t?` JOIN u ON ? WHERE a = '\x7b\x7b' AND '\x7d\x7d' = ?",
        [.int 1, .int 2, .int 1]⟩ := by decide +kernel
  exact ⟨rfl, rfl, hrows, _, hcompile, data_in_clause_order rfl rfl hrows hcompile, rfl⟩

end SqlBuilder.Query
