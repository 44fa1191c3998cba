import Mathlib.Data.List.Nodup
import Mathlib.Data.List.Perm.Basic
import SqlBuilder.Proofs.Entries
import SqlBuilder.Proofs.Frame
import SqlBuilder.Proofs.Rows.Basic
import SqlBuilder.Proofs.Session

/-!
# Rows that are added to an insert

Rows may have different fields in different orders. As long as the columns come from the rows alone,
the column list is all their names in order of first appearance (`Query.foldl_columnsWith`), so
every field of every row has its column, and one column only: a later row that widens the list adds
nothing to the earlier ones but nulls. That is why the values in the data are those that were given,
each of them once (`Query.rowData_perm`).

Other calls on the query may come between, as long as they leave alone what the statement with rows
is written from, and so may rows that are refused (`Session.rows_run`). So neither assignments nor
conditions nor bindings make a difference to it (`Session.rows_added`).
-/

namespace SqlBuilder

namespace Query

open Edit (withNames)

/-! ## The columns that rows leave -/

theorem columnsWith_of_chosen {columns : List String} (h : columns ≠ allColumns) (f : Fields) :
    columnsWith columns f = withNames columns f.keys := by
  rw [columnsWith, if_neg h]

/-- Rows without a star never bring back the list that stands for all columns. -/
theorem foldl_columnsWith_of_not_mem {columns : List String} (h : "*" ∉ columns)
    {rows : List Fields} (hrows : ∀ f ∈ rows, "*" ∉ f.keys) :
    rows.foldl columnsWith columns = withNames columns (rows.flatMap Fields.keys) := by
  induction rows generalizing columns with
  | nil => rfl
  | cons f rows ih =>
    obtain ⟨hf, hrows⟩ := List.forall_mem_cons.1 hrows
    have hchosen : columns ≠ allColumns := fun hall => h (by rw [hall]; decide)
    have hnext : "*" ∉ withNames columns f.keys := fun hmem =>
      (Edit.mem_withNames.1 hmem).elim h hf
    rw [List.foldl_cons, columnsWith_of_chosen hchosen, ih hnext hrows, List.flatMap_cons,
      Edit.withNames_append]

/-- The columns that rows leave are their names in order of first appearance. -/
theorem foldl_columnsWith {rows : List Fields} (hne : rows ≠ [])
    (hrows : ∀ f ∈ rows, "*" ∉ f.keys) :
    rows.foldl columnsWith allColumns = withNames [] (rows.flatMap Fields.keys) := by
  obtain ⟨f, rows, rfl⟩ := List.exists_cons_of_ne_nil hne
  have hfirst : columnsWith allColumns f = columnsWith [] f := by
    rw [columnsWith, if_pos rfl, columnsWith, if_neg (by decide)]
  rw [List.foldl_cons, hfirst, ← List.foldl_cons]
  exact foldl_columnsWith_of_not_mem List.not_mem_nil hrows

/-! ## The values of a row -/

theorem get?_eq_none_of_not_mem {f : Fields} {name : String} (h : name ∉ f.keys) :
    f.get? name = none :=
  Entries.get?_eq_none_iff.2 h

/-- If every name of a row has one column, the values of the row are those that were given. -/
theorem rowData_perm {columns : List String} (hcolumns : columns.Nodup) {f : Fields}
    (hf : f.keys.Nodup) (hsub : ∀ name ∈ f.keys, name ∈ columns) :
    (rowData columns f).Perm (f.entries.filterMap fun e => e.2.marked?) := by
  have hkeys : f.keys.filterMap (fun c => (f.get? c).bind Operand.marked?) =
      f.entries.filterMap fun e => e.2.marked? := by
    have hmap := congrArg (List.filterMap fun v => Option.bind v Operand.marked?)
      (Entries.map_get?_keys hf)
    rw [List.filterMap_map, List.filterMap_map] at hmap
    exact hmap
  -- The columns without a field of the row give nothing, so only those of the row count.
  have hfilter : rowData columns f = (columns.filter (· ∈ f.keys)).filterMap
      fun c => (f.get? c).bind Operand.marked? := by
    rw [rowData, List.filterMap_filter]
    refine List.filterMap_congr fun c _ => ?_
    by_cases hc : c ∈ f.keys
    · simp [hc]
    · simp [hc, get?_eq_none_of_not_mem hc]
  have hsame : (columns.filter (· ∈ f.keys)).Perm f.keys := by
    refine (List.perm_ext_iff_of_nodup (hcolumns.filter _) hf).2 fun name => ?_
    simp only [List.mem_filter, decide_eq_true_eq]
    exact ⟨fun h => h.2, fun h => ⟨hsub name h, h⟩⟩
  rw [hfilter, ← hkeys]
  exact hsame.filterMap _

end Query

/-! ## Scripts that add rows -/

/-- The kind and the source of a statement. -/
def Query.target (q : Query) : Option Action × InsertMode × String × Bool :=
  (q.action, q.insertMode, q.source, q.hasSource)

/-- The call leaves target, columns and rows alone, or adds a row given by its fields. -/
def Call.addsByFields {Q : Type} : Call Q → Bool
  | act _ | insertInto _ | insertFields _ _ | table _ _ | tableOf _ _ _ | actOn _ _ _ | database _
  | fromSubquery _ _ | deleteFromTables _ _ | columns _ | selectColumns _ | addColumn _ _
  | addRowValues _ => false
  | _ => true

/-- The command leaves target, columns and rows of the query of that name alone, or adds a row
given by its fields to it. -/
def Command.AddsByFields (name : String) : Command → Prop
  | .create other _ => other ≠ name
  | .call other c => other = name → c.addsByFields = true
  | _ => True

instance (name : String) : (c : Command) → Decidable (c.AddsByFields name)
  | .create other _ => inferInstanceAs (Decidable (other ≠ name))
  | .call other c => inferInstanceAs (Decidable (other = name → c.addsByFields = true))
  | .setDefaultBound _ | .compile _ | .literalText _ | .state _ | .equals _ _ | .exec _ _ =>
    .isTrue trivial

/-- The row that the call adds, if it is accepted. -/
def Call.row? {Q : Type} : Call Q → Option Fields
  | addRow f => if Edit.badCell? f.entries = none then some f else none
  | _ => none

/-- The row that the command adds to the query of that name, if it is accepted. -/
def Command.row? (name : String) : Command → Option Fields
  | .call other c => if other = name then c.row? else none
  | _ => none

namespace Call

/-- One query is the other with rows added, as far as a statement with rows goes. -/
structure RowsAdded (rows : List Fields) (q r : Query) : Prop where
  target : r.target = q.target
  columns : r.columns = rows.foldl Query.columnsWith q.columns
  rows : r.rows = q.rows ++ rows

theorem RowsAdded.nothing {q r : Query} (htarget : r.target = q.target)
    (hcolumns : r.columns = q.columns) (hrows : r.rows = q.rows) : RowsAdded [] q r :=
  ⟨htarget, hcolumns, hrows.trans (List.append_nil _).symm⟩

theorem RowsAdded.trans {rows more : List Fields} {q r t : Query} (h : RowsAdded rows q r)
    (hmore : RowsAdded more r t) : RowsAdded (rows ++ more) q t where
  target := hmore.target.trans h.target
  columns := by rw [hmore.columns, h.columns, List.foldl_append]
  rows := by rw [hmore.rows, h.rows, List.append_assoc]

theorem rowsAdded_run {c : Call Query} (hc : c.addsByFields = true) (d : Draft) :
    RowsAdded c.row?.toList d.query (c.run d).2.query := by
  have hleaves (h : c.run.Leaves fun q => (q.target, q.columns, q.rows)) (hnone : c.row? = none) :
      RowsAdded c.row?.toList d.query (c.run d).2.query := by
    obtain ⟨htarget, hrest⟩ := Prod.mk.inj (h d)
    obtain ⟨hcolumns, hrows⟩ := Prod.mk.inj hrest
    rw [hnone]
    exact .nothing htarget hcolumns hrows
  cases c with
  | act _ | insertInto _ | insertFields _ _ | table _ _ | tableOf _ _ _ | actOn _ _ _ | database _
  | fromSubquery _ _ | deleteFromTables _ _ | columns _ | selectColumns _ | addColumn _ _
  | addRowValues _ => cases hc
  | addRow f =>
    rw [run_snd]
    change RowsAdded (row? (addRow f : Call Query)).toList d.query (Edit.addRow f d).2.query
    cases hbad : Edit.badCell? f.entries with
    | none =>
      have hrow : row? (addRow f : Call Query) = some f := if_pos hbad
      rw [hrow, Edit.addRow_accepted hbad]
      exact ⟨rfl, rfl, rfl⟩
    | some column =>
      have hrow : row? (addRow f : Call Query) = none := if_neg (by rw [hbad]; nofun)
      rw [hrow, Edit.addRow_refused hbad]
      exact .nothing rfl rfl rfl
  | _ => exact hleaves (leaves_run fun _ => rfl) rfl

theorem row?_resolve {Q R : Type} {find? : Q → Option R} {c : Call Q} {e : Call R}
    (h : c.resolve find? = some e) : e.row? = c.row? ∧ e.addsByFields = c.addsByFields := by
  cases c with
  | addCondition _ _ _ _ | fromSubquery _ _ | columns _ | selectColumns _ | addColumn _ _
  | join _ _ =>
    obtain ⟨_, -, rfl⟩ := Option.map_eq_some_iff.1 h
    exact ⟨rfl, rfl⟩
  | _ =>
    cases h
    exact ⟨rfl, rfl⟩

/-- A call that names a query which does not exist adds no row. -/
theorem row?_of_unknown {Q R : Type} {find? : Q → Option R} {c : Call Q}
    (h : c.resolve find? = none) : c.row? = none := by
  cases c with
  | addRow _ => cases h
  | _ => rfl

end Call

namespace Session

open Call (RowsAdded)

variable {s : Session} {name : String} {q : Query}

theorem rows_step (hq : s.queries.get? name = some q) {c : Command} (hc : c.AddsByFields name) :
    ∃ r, (s.step c).2.queries.get? name = some r ∧ RowsAdded (c.row? name).toList q r := by
  have hrests : RowsAdded [] q q := .nothing rfl rfl rfl
  cases c with
  | create other how =>
    refine ⟨q, ?_, hrests⟩
    have hother : other ≠ name := hc
    simp only [step]
    split
    · rw [Dict.get?_insert, if_neg hother, hq]
    · exact hq
  | call other c =>
    simp only [step, Command.row?]
    by_cases hother : other = name
    · subst hother
      rw [if_pos rfl, hq]
      cases he : c.resolve s.queries.get? with
      | none =>
        rw [Call.row?_of_unknown he]
        exact ⟨q, hq, hrests⟩
      | some e =>
        obtain ⟨hrow, hadds⟩ := Call.row?_resolve he
        refine ⟨_, (Dict.get?_insert ..).trans (if_pos rfl), ?_⟩
        rw [← hrow]
        exact Call.rowsAdded_run (hadds.trans (hc rfl)) ⟨q, s.lastId, []⟩
    · rw [if_neg hother]
      refine ⟨q, ?_, hrests⟩
      split
      · exact ((Dict.get?_insert ..).trans (if_neg hother)).trans hq
      · exact hq
  | setDefaultBound _ | compile _ | literalText _ | state _ | equals _ _ | exec _ _ =>
    exact ⟨q, hq, hrests⟩

/-- The rows that a script adds to a query, in order. -/
def rowsGiven (name : String) (cs : List Command) : List Fields := cs.filterMap (Command.row? name)

/-- Through a script the accepted rows pile up, and the columns with them. -/
theorem rows_run (hq : s.queries.get? name = some q) {cs : List Command}
    (hcs : ∀ c ∈ cs, c.AddsByFields name) :
    ∃ r, (s.run cs).2.queries.get? name = some r ∧ RowsAdded (rowsGiven name cs) q r := by
  induction cs generalizing s q with
  | nil => exact ⟨q, hq, .nothing rfl rfl rfl⟩
  | cons c cs ih =>
    obtain ⟨hc, hcs⟩ := List.forall_mem_cons.1 hcs
    obtain ⟨r, hr, hstep⟩ := rows_step hq hc
    obtain ⟨t, ht, hrun⟩ := ih hr hcs
    refine ⟨t, ht, ?_⟩
    have hcons : rowsGiven name (c :: cs) = (c.row? name).toList ++ rowsGiven name cs := by
      rw [rowsGiven, List.filterMap_eq_flatMap_toList, List.flatMap_cons,
        ← List.filterMap_eq_flatMap_toList, rowsGiven]
    rw [hcons]
    exact hstep.trans hrun

/-- **Rows that are added.** Let the columns of an insert come from its rows alone. They are the
names in the rows in order of first appearance, each once. The query compiles, whatever else it
holds, to one tuple for every row with one cell for every column, and a column that a row has no
field for is null there. The data is that of the rows, one after the other: the marks in the cells
stand for it in order, a mark without a value being raw text of the caller's, and of each row added
it is the numbers and texts that were given, each of them once. -/
theorem rows_added (hq : s.queries.get? name = some q) (haction : q.action = some .insert)
    (hsource : q.hasSource = true) (hcolumns : q.columns = allColumns) {cs : List Command}
    (hcs : ∀ c ∈ cs, c.AddsByFields name) (hne : rowsGiven name cs ≠ [])
    (hstar : ∀ f ∈ rowsGiven name cs, "*" ∉ f.keys) :
    ∃ r c, (s.run cs).2.queries.get? name = some r ∧
      r.columns = ((rowsGiven name cs).flatMap Fields.keys).eraseDups ∧ r.columns.Nodup ∧
      r.rows = q.rows ++ rowsGiven name cs ∧
      r.compile = .ok c ∧
      c.query = q.insertMode.keyword ++ " INTO " ++ q.source ++ " (" ++ r.columnList ++
        ") VALUES " ++ listed (r.rows.map r.tuple) ∧
      c.data = r.rows.flatMap (Query.rowData r.columns) ∧
      (∀ f ∈ r.rows, (Query.cells r.columns f).length = r.columns.length ∧
        (∀ column, column ∉ f.keys → Query.cell (f.get? column) = ("NULL", [])) ∧
        ∀ column, (Query.cell (f.get? column)).1 = "?" → (Query.cell (f.get? column)).2 = [] →
          f.get? column = some (.raw "?")) ∧
      ((r.rows.flatMap (Query.cells r.columns)).filter fun cell => cell.2 ≠ []) =
        (c.data.map fun w => ("?", [w])) ∧
      ∀ f ∈ rowsGiven name cs, f.keys.Nodup →
        (Query.rowData r.columns f).Perm (f.entries.filterMap fun e => e.2.marked?) := by
  obtain ⟨r, hr, htarget, hlist, hrows⟩ := rows_run hq hcs
  rw [hcolumns, Query.foldl_columnsWith hne hstar] at hlist
  have hnodup : r.columns.Nodup := hlist ▸ Edit.nodup_withNames List.nodup_nil _
  simp only [Query.target, Prod.mk.injEq] at htarget
  obtain ⟨hraction, hmode, hrsource, hhas⟩ := htarget
  have hwrites : r.WritesRows := by
    refine ⟨hraction.trans haction, hhas.trans hsource, ?_⟩
    rw [hrows]
    simp [hne]
  refine ⟨r, r.insertRows, hr, ?_, hnodup, hrows, hwrites.compile_eq, ?_, r.insertRows_data, ?_, ?_,
    ?_⟩
  · simp [hlist, Edit.withNames_eq, List.removeAll]
  · rw [Query.insertRows_query, hmode, hrsource]
  · intro f _
    refine ⟨Query.length_cells _ f, fun column hcolumn => ?_,
      fun column => (Query.cell_mark (f.get? column)).2⟩
    rw [Query.get?_eq_none_of_not_mem hcolumn]
    rfl
  · rw [Query.insertRows_data, List.filter_flatMap, List.map_flatMap]
    simp only [Query.filter_cells]
  · intro f hf hkeys
    refine Query.rowData_perm hnodup hkeys fun key hkey => ?_
    rw [hlist]
    exact Edit.mem_withNames.2 (.inr (List.mem_flatMap.2 ⟨f, hf, hkey⟩))

/-- Two rows with different fields in different orders. Between them stand a row that is refused and
calls that make no difference to the statement. -/
def addBooks : List Command :=
  [.call "q" (.addRow ⟨[("id", .value (.int 1)), ("title", .data (.text "Emma") (some "UPPER"))]⟩),
    .call "q" (.addRow ⟨[("price", .list [])]⟩),
    .call "q" (.set "id" (.value (.int 7)) none),
    .call "q" (.boundParameters false),
    .call "q" (.addRow ⟨[("year", .raw "YEAR(NOW())"), ("lent", .value (.bool true)),
      ("id", .value (.int 2))]⟩)]

/-- A session with an empty insert. -/
def emptyShelf : Session :=
  { queries := Dict.empty.insert "q" { action := some .insert, tableName := some "books" } }

theorem rows_added_books :
    (∀ c ∈ addBooks, c.AddsByFields "q") ∧ (∀ f ∈ rowsGiven "q" addBooks, "*" ∉ f.keys) ∧
      ∃ r c, (emptyShelf.run addBooks).2.queries.get? "q" = some r ∧
        r.columns = ["id", "title", "year", "lent"] ∧ r.rows.length = 2 ∧ r.compile = .ok c ∧
        c.query = "INSERT INTO `books` ( id, title, year, lent ) VALUES (?, ?, NULL, NULL), " ++
          "(?, NULL, YEAR(NOW()), TRUE)" ∧
        c.data = [.int 1, .text "Emma", .int 2] := by
  have hq : emptyShelf.queries.get? "q" =
      some { action := some .insert, tableName := some "books" } := rfl
  have hadds : ∀ c ∈ addBooks, c.AddsByFields "q" := by decide
  have hstar : ∀ f ∈ rowsGiven "q" addBooks, "*" ∉ f.keys := by decide
  have hcompile : ((emptyShelf.run addBooks).2.queries.get? "q").map Query.compile =
      some (.ok ⟨"INSERT INTO `books` ( id, title, year, lent ) VALUES (?, ?, NULL, NULL), " ++
        "(?, NULL, YEAR(NOW()), TRUE)", [.int 1, .text "Emma", .int 2]⟩) := by
    decide +kernel
  obtain ⟨r, c, hr, hcolumns, -, hrows, hc, -⟩ :=
    rows_added hq rfl (by decide) rfl hadds (by decide) hstar
  rw [hr, Option.map_some, hc] at hcompile
  cases hcompile
  refine ⟨hadds, hstar, r, _, hr, hcolumns.trans (by decide), ?_, hc, rfl, rfl⟩
  rw [hrows]
  decide

end Session
end SqlBuilder
