import SqlBuilder.Proofs.Compile.ClauseOrder
import SqlBuilder.Session

/-!
# Placeholders that remain in a compiled text

With bound parameters, a statement that goes through the resolver has no placeholder left: each has
given way to a mark, or compiling fails. An insert with rows does not go through the resolver. Its
text is written from the source, the columns and the cells as they are, so that a placeholder in
one of these fragments stays in the text, and compiling succeeds whether or not a value is stored
for it.

`placeholders_insertRows` says which placeholders these are. Besides the fragments that the caller
wrote as SQL, only the texts of values could bring in others, and they do not: a value in a cell is
a mark, a word, or a date, and none of them has a brace.
-/

namespace SqlBuilder

open Placeholder

/-! ## The text of a date has no braces -/

namespace Timestamp

theorem brace_not_mem_padded (width n : Nat) : '{' ∉ padded width n := by
  intro h
  rcases List.mem_append.1 h with h | h
  · exact absurd (List.eq_of_mem_replicate h) (by decide)
  · exact absurd (Nat.isDigit_of_mem_toDigits (by decide) (by decide) h) (by decide)

theorem brace_not_mem_yearText (y : Int) : '{' ∉ yearText y := by
  unfold yearText
  split
  · exact brace_not_mem_padded 4 _
  · split <;> simp [brace_not_mem_padded]

theorem brace_not_mem_sqlText (t : Timestamp) : '{' ∉ t.sqlText.toList := by
  simp [sqlText, dateText, timeText, brace_not_mem_padded, brace_not_mem_yearText]

end Timestamp

namespace Query

/-! ## Rows -/

/-- The literal SQL in the cell of a row. -/
def rawCell : Option Operand → List String
  | some (.raw sql) => [sql]
  | _ => []

/-- The fragments of an insert with rows that the caller wrote as SQL. -/
def rowFragments (q : Query) : List String :=
  q.sourceFragments ++ q.columns ++
    q.rows.flatMap fun row => q.columns.flatMap fun c => rawCell (row.get? c)

theorem placeholders_cellOfValue (v : Value) : placeholders (cellOfValue v).1 = [] := by
  apply placeholders_of_not_mem
  cases v with
  | bool b => cases b <;> decide
  | time t => simp [cellOfValue, Timestamp.brace_not_mem_sqlText]
  | _ => simp [cellOfValue]

theorem placeholders_cell (v : Option Operand) :
    placeholders (cell v).1 = (rawCell v).flatMap placeholders := by
  have hnull : placeholders "NULL" = [] := placeholders_of_not_mem (by decide)
  cases v with
  | none => exact hnull
  | some v =>
    cases v with
    | value v | data v modifier => exact placeholders_cellOfValue v
    | list _ | object _ => exact hnull
    | raw sql => exact (List.flatMap_singleton ..).symm

theorem placeholders_rowText (cells : List (String × List Value)) :
    placeholders (rowText cells) = cells.flatMap fun c => placeholders c.1 := by
  rw [rowText, placeholders_glue_right (by decide), placeholders_lead (by decide),
    placeholders_listed, List.flatMap_map]

theorem placeholders_insertRows (q : Query) :
    placeholders q.insertRows.query = q.rowFragments.flatMap placeholders := by
  have hmode : placeholders (q.insertMode.keyword ++ " INTO") = [] := by
    cases q.insertMode <;> exact placeholders_of_not_mem (by decide)
  have hopen : placeholders "(" = [] := placeholders_of_not_mem (by decide)
  have hvalues : placeholders ") VALUES" = [] := placeholders_of_not_mem (by decide)
  have hrow : ∀ row, placeholders (rowText (cells q.columns row)) =
      q.columns.flatMap fun c => (rawCell (row.get? c)).flatMap placeholders := fun row => by
    simp only [placeholders_rowText, cells, List.flatMap_map, placeholders_cell]
  simp [insertRows, rowFragments, placeholders_spaced, placeholders_listed, placeholders_source,
    placeholders_chosenColumns, hmode, hopen, hvalues, hrow, List.flatMap_map, List.flatMap_assoc]

/-! ## Statements that are handed over -/

theorem compile_of_mem_calls {q : Query} {reason : Option String} {c : Compiled}
    (h : c ∈ (q.execute reason).1.calls) : q.compile = .ok c := by
  unfold execute at h
  cases hc : q.compile with
  | error f =>
    rw [hc] at h
    cases h
  | ok c' =>
    rw [hc] at h
    cases reason <;> exact congrArg Except.ok (List.mem_singleton.1 h).symm

/-- A complete statement that compiles stores a value for every placeholder. -/
theorem Complete.stores_of_compile {q : Query} {a : Action} (hq : q.Complete a) {c : Compiled}
    (hc : q.compile = .ok c) : q.Stores (placeholders (q.statementText a)) := by
  by_contra h
  obtain ⟨before, t, after, hts, hbefore, ht⟩ := exists_first_missing h
  rw [hq.compile_eq, resolve_of_missing hts hbefore ht] at hc
  cases hc

/-- **Only rows keep placeholders.** Let a query use bound parameters. What is handed over for
execution is what it compiles to, and unless it is an insert with rows, no placeholder is left in
that: each has given way to a mark, with its value in the data, and a placeholder without a value
makes compiling fail. An insert with rows compiles whatever is stored, and its text has exactly the
placeholders of the fragments that the caller wrote as SQL: the source, the columns and the cells
of literal SQL. -/
theorem only_rows_keep_placeholders {q : Query} (hb : q.boundParameters = true) :
    (∀ reason, ∀ c ∈ (q.execute reason).1.calls, q.compile = .ok c) ∧
      (∀ c, q.compile = .ok c → ¬ q.WritesRows →
        (∀ i, ¬ Begins (c.query.toList.drop i)) ∧
          ∃ a, q.Complete a ∧ c.query = fill (fun _ => "?") (template (q.statementText a)) ∧
            c.data.map some = (placeholders (q.statementText a)).map q.bindings.get?) ∧
      (∀ a, q.Complete a → ∀ t ∈ placeholders (q.statementText a), q.bindings.get? t = none →
        ∃ u ∈ placeholders (q.statementText a), q.compile = .error (.unbound u)) ∧
      (q.WritesRows → ∃ c, q.compile = .ok c ∧
        placeholders c.query = q.rowFragments.flatMap placeholders) := by
  refine ⟨fun reason c => compile_of_mem_calls, fun c hc hrows => ?_, fun a hq t ht hnone => ?_,
    fun hrows => ⟨_, hrows.compile_eq, q.placeholders_insertRows⟩⟩
  · obtain ⟨a, hq⟩ : ∃ a, q.Complete a := by
      have hwritten := hc
      rw [compile_eq] at hwritten
      cases hw : q.written with
      | error f =>
        rw [hw] at hwritten
        cases hwritten
      | ok w =>
        rcases written_eq_ok hw with ⟨a, hq, -⟩ | ⟨h, -⟩
        · exact ⟨a, hq⟩
        · exact absurd h hrows
    obtain ⟨vs, hvs⟩ := (hq.stores_of_compile hc).exists_values
    have hdata := data_eq_of_resolve hb (hq.compile_eq ▸ hc)
    have hquery : c.query = fill (fun _ => "?") (template (q.statementText a)) := by
      rw [hq.compile_eq, resolve_of_stored hvs] at hc
      cases hc
      change (cutOf _).weave (q.woven vs) = _
      rw [woven, if_pos hb, ← map_of_map_eq hvs (f := fun _ => "?") fun _ _ _ => rfl,
        placeholders, ← tokens_cutOf, Cut.weave_map_tokens, fill_cutOf]
    refine ⟨fun i => ?_, a, hq, hquery, hdata⟩
    rw [hquery, ← fill_cutOf]
    exact (leftmost_cutOf _).marked i
  · have hstores : ¬ q.Stores (placeholders (q.statementText a)) := fun h => by
      have hsome := h t ht
      rw [hnone] at hsome
      cases hsome
    obtain ⟨before, u, after, hts, hbefore, hu⟩ := exists_first_missing hstores
    exact ⟨u, by rw [hts]; simp, hq.compile_eq.trans (resolve_of_missing hts hbefore hu)⟩

/-- With its values the query compiles to marks, and without them it does not compile. -/
theorem bracedQuery_marked :
    bracedQuery.boundParameters = true ∧ ¬ bracedQuery.WritesRows ∧
      (∃ c, bracedQuery.compile = .ok c ∧
        (∀ i, ¬ Begins (c.query.toList.drop i)) ∧
          c.data = [.text "{{x}}?'", .text "{{x}}?'", .int 3]) ∧
      ∃ u, { bracedQuery with bindings := .empty }.compile = .error (.unbound u) := by
  have hrows : ¬ bracedQuery.WritesRows := fun h => absurd h.action (by decide)
  obtain ⟨-, hmarked, -, -⟩ := only_rows_keep_placeholders (q := bracedQuery) rfl
  obtain ⟨-, -, hmissing, -⟩ :=
    only_rows_keep_placeholders (q := { bracedQuery with bindings := .empty }) rfl
  obtain ⟨u, -, hu⟩ := hmissing .select ⟨rfl, by decide, trivial⟩ "{{x}}" (by decide +kernel) rfl
  exact ⟨rfl, hrows, ⟨_, bracedQuery_compile, (hmarked _ bracedQuery_compile hrows).1, rfl⟩, u, hu⟩

end Query

namespace Session

/-- An insert with a row whose cell is literal SQL with a placeholder. -/
def rowOfLiteral : List Command :=
  [.create "q" (.inserting .insert), .call "q" (.table "t" none),
    .call "q" (.insertBinding "x" (.int 5)), .call "q" (.addRow ⟨[("a", .raw "{{x}}")]⟩)]

/-- The placeholder in the cell stays, although there is a value for it. -/
theorem rowOfLiteral_keeps : ∃ q, (run {} rowOfLiteral).2.queries.get? "q" = some q ∧
    q.boundParameters = true ∧ q.bindings.get? "{{x}}" = some (.int 5) ∧
      ∃ c, q.compile = .ok c ∧ c = ⟨"INSERT INTO `t` ( a ) VALUES ({{x}})", []⟩ ∧
        ∃ i, Begins (c.query.toList.drop i) := by
  have h : ((run {} rowOfLiteral).2.queries.get? "q").map
      (fun q => (q.boundParameters, q.bindings.get? "{{x}}", q.compile)) =
        some (true, some (.int 5), .ok ⟨"INSERT INTO `t` ( a ) VALUES ({{x}})", []⟩) := by
    decide +kernel
  obtain ⟨q, hq, h⟩ := Option.map_eq_some_iff.1 h
  simp only [Prod.mk.injEq] at h
  obtain ⟨hmode, hstored, hc⟩ := h
  exact ⟨q, hq, hmode, hstored, _, hc, rfl, 30, ['x'], [')'],
    List.forall_mem_singleton.2 rfl, by decide +kernel⟩

end Session
end SqlBuilder
