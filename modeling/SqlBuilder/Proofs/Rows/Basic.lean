import Mathlib.Data.List.Nodup
import SqlBuilder.Edit
import SqlBuilder.Proofs.Compile.Complete

/-!
# Inserts with rows

An insert with rows is written in one go: the column list between parentheses, then one tuple for
every row, with one cell for every column (`Query.insertRows_query`). Beside the text stand the
values of those cells that are a mark, row by row and within a row column by column
(`Query.insertRows_data`).

Only numbers and texts are marked in a cell (`Operand.marked?`). Everything else is written out, so
the cells that hand over a value are marks, one for each value (`Query.filter_cells`). The only
other marks are those that the caller writes as literal SQL (`Query.cell_mark`).

A row is accepted if each of its fields can stand in a cell. It is put behind the other rows, and
the names that it has and the column list has not are put behind the columns, each once
(`Edit.addRow_accepted`, `Edit.withNames_eq`).
-/

namespace SqlBuilder

/-! ## Cells -/

/-- The value behind a mark in a row: a number or a text. -/
def Value.marked? : Value → Option Value
  | int n => some (int n)
  | float x => some (float x)
  | text s => some (text s)
  | null | bool _ | time _ => none

/-- The value behind the mark that an operand is in a row, if it is one. A tag changes nothing. -/
def Operand.marked? : Operand → Option Value
  | value v | data v _ => v.marked?
  | list _ | raw _ | object _ => none

namespace Query

theorem cellOfValue_data (v : Value) : (cellOfValue v).2 = v.marked?.toList := by
  cases v with
  | bool b => cases b <;> rfl
  | _ => rfl

/-- A cell hands over the value behind its mark and nothing else. -/
theorem cell_data (v : Option Operand) : (cell v).2 = (v.bind Operand.marked?).toList := by
  cases v with
  | none => rfl
  | some v =>
    cases v with
    | value v | data v _ => exact cellOfValue_data v
    | list _ | raw _ | object _ => rfl

/-- A cell of a value with a mark is the mark, and a mark is only written for a value. -/
theorem cellOfValue_mark (v : Value) : (∀ w ∈ (cellOfValue v).2, cellOfValue v = ("?", [w])) ∧
    ((cellOfValue v).1 = "?" → (cellOfValue v).2 ≠ []) := by
  cases v with
  | time t =>
    have hquoted : "\x27" ++ t.sqlText ++ "\x27" ≠ "?" := by
      intro h
      have hlength := congrArg String.length h
      rw [String.length_append, String.length_append, show "\x27".length = 1 from rfl,
        show "?".length = 1 from rfl] at hlength
      omega
    simp [cellOfValue, hquoted]
  | bool b => cases b <;> simp [cellOfValue]
  | null | int _ | float _ | text _ => simp [cellOfValue]

/-- A cell with a value is a mark, and a mark without a value is the caller's own text. -/
theorem cell_mark (v : Option Operand) :
    (∀ w ∈ (cell v).2, cell v = ("?", [w])) ∧
      ((cell v).1 = "?" → (cell v).2 = [] → v = some (.raw "?")) := by
  cases v with
  | none => simp [cell]
  | some v =>
    cases v with
    | value v | data v _ =>
      obtain ⟨hvalue, hmark⟩ := cellOfValue_mark v
      exact ⟨hvalue, fun h hnone => absurd hnone (hmark h)⟩
    | list _ | object _ => simp [cell]
    | raw sql => simp [cell]

@[simp] theorem length_cells (columns : List String) (row : Fields) :
    (cells columns row).length = columns.length :=
  List.length_map _

/-- The values of a row in the order of the columns. -/
def rowData (columns : List String) (row : Fields) : List Value :=
  columns.filterMap fun c => (row.get? c).bind Operand.marked?

theorem flatMap_cells (columns : List String) (row : Fields) :
    (cells columns row).flatMap Prod.snd = rowData columns row := by
  rw [cells, List.flatMap_map, rowData, List.filterMap_eq_flatMap_toList]
  simp only [cell_data]

/-- The cells that have a value are marks, and their values are those of the row in order. -/
theorem filter_cells (columns : List String) (row : Fields) :
    ((cells columns row).filter fun c => c.2 ≠ []) =
      (rowData columns row).map fun w => ("?", [w]) := by
  unfold cells rowData
  induction columns with
  | nil => rfl
  | cons column columns ih =>
    have hcell := cell_data (row.get? column)
    rw [List.map_cons, List.filter_cons, List.filterMap_cons, ih]
    cases h : (row.get? column).bind Operand.marked? with
    | none =>
      rw [h] at hcell
      simp [hcell]
    | some w =>
      rw [h] at hcell
      have heq := (cell_mark (row.get? column)).1 w (by simp [hcell])
      simp [heq]

/-! ## The statement -/

/-- What stands between the parentheses of the column list. -/
def columnList (q : Query) : String :=
  if q.chosenColumns = [] then " " else " " ++ listed q.columns ++ " "

/-- The tuple of a row. -/
def tuple (q : Query) (row : Fields) : String := rowText (cells q.columns row)

/-- The column list, then one tuple for every row. -/
theorem insertRows_query (q : Query) :
    q.insertRows.query = q.insertMode.keyword ++ " INTO " ++ q.source ++ " (" ++ q.columnList ++
      ") VALUES " ++ listed (q.rows.map q.tuple) := by
  have hchosen : q.chosenColumns = [] ∨ q.chosenColumns = [listed q.columns] := by
    unfold chosenColumns
    dsimp only
    split
    · exact .inl rfl
    · exact .inr rfl
  have hrows : (q.rows.map (cells q.columns)).map rowText = q.rows.map q.tuple := List.map_map
  apply String.toList_inj.1
  unfold insertRows columnList
  dsimp only
  rw [hrows]
  rcases hchosen with h | h
  · simp [h, spaced]
  · simp [h, spaced]

/-- The values row by row. -/
theorem insertRows_data (q : Query) : q.insertRows.data = q.rows.flatMap (rowData q.columns) := by
  unfold insertRows
  dsimp only
  rw [List.flatMap_map]
  simp only [flatMap_cells]

/-- A further row is a further tuple, and its data comes last. -/
theorem compile_of_last_row {q r : Query} (columns : List String) (f : Fields)
    (hr : r = { q with columns := columns, rows := q.rows ++ [f] })
    (haction : q.action = some .insert) (hsource : q.hasSource = true) :
    r.compile = .ok
      { query := q.insertMode.keyword ++ " INTO " ++ q.source ++ " (" ++ r.columnList ++
          ") VALUES " ++ listed (q.rows.map r.tuple ++ [rowText (cells columns f)])
        data := q.rows.flatMap (rowData columns) ++ rowData columns f } := by
  have hsame : r.rows = q.rows ++ [f] ∧ r.columns = columns ∧ r.insertMode = q.insertMode ∧
      r.source = q.source ∧ r.tuple f = rowText (cells columns f) ∧ r.action = q.action ∧
      r.hasSource = q.hasSource := by
    rw [hr]
    exact ⟨rfl, rfl, rfl, rfl, rfl, rfl, rfl⟩
  obtain ⟨hrows, hcolumns, hmode, hrsource, htuple, hraction, hhas⟩ := hsame
  have hwrites : r.WritesRows :=
    ⟨hraction.trans haction, hhas.trans hsource, by simp [hrows]⟩
  have hquery := r.insertRows_query
  have hdata := r.insertRows_data
  rw [hrows, hmode, hrsource, List.map_append, List.map_singleton, htuple] at hquery
  rw [hrows, hcolumns, List.flatMap_append, List.flatMap_singleton] at hdata
  rw [hwrites.compile_eq]
  exact congrArg Except.ok ((Compiled.mk.injEq ..).mpr ⟨hquery, hdata⟩)

end Query

/-! ## Names in order of first appearance -/

namespace Edit

theorem withNames_append (columns names more : List String) :
    withNames columns (names ++ more) = withNames (withNames columns names) more := by
  induction names generalizing columns with
  | nil => rfl
  | cons name names ih =>
    rw [List.cons_append, withNames, withNames]
    split
    · exact ih columns
    · exact ih (columns ++ [name])

/-- The names that are not there yet are put behind the columns, each once. -/
theorem withNames_eq (columns names : List String) :
    withNames columns names = columns ++ (names.removeAll columns).eraseDups := by
  induction names generalizing columns with
  | nil => simp [withNames]
  | cons name names ih =>
    rw [withNames, ih, ih, List.cons_removeAll]
    by_cases hname : name ∈ columns
    · simp [hname]
    · have hrest : names.removeAll (columns ++ [name]) =
          (names.removeAll columns).filter fun other => !other == name := by
        unfold List.removeAll
        rw [List.filter_filter]
        refine List.filter_congr fun other _ => ?_
        simp [Bool.and_comm, Bool.beq_eq_decide_eq]
      simp [hname, hrest, List.eraseDups_cons]

theorem mem_withNames {columns names : List String} {name : String} :
    name ∈ withNames columns names ↔ name ∈ columns ∨ name ∈ names := by
  by_cases hname : name ∈ columns
  · simp [withNames_eq, hname]
  · simp [withNames_eq, List.removeAll, hname]

theorem nodup_withNames {columns : List String} (h : columns.Nodup) (names : List String) :
    (withNames columns names).Nodup := by
  induction names generalizing columns with
  | nil => exact h
  | cons name names ih =>
    rw [withNames]
    split
    · exact ih h
    · rename_i hname
      exact ih (List.nodup_append_comm.2 (List.nodup_cons.2 ⟨hname, h⟩))

end Edit

/-! ## Adding a row -/

/-- The operand can stand in a cell of a row. -/
def Operand.isCell : Operand → Bool
  | value _ | data _ _ | raw _ => true
  | list _ | object _ => false

/-- A column list with the names of a row. A list that stands for all columns gives way. -/
def Query.columnsWith (columns : List String) (f : Fields) : List String :=
  Edit.withNames (if columns = allColumns then [] else columns) f.keys

/-- The query with a row added. -/
def Query.withRow (q : Query) (f : Fields) : Query :=
  { q with columns := columnsWith q.columns f, rows := q.rows ++ [f] }

namespace Edit

theorem badCell?_eq_none_iff (es : List (String × Operand)) :
    badCell? es = none ↔ ∀ e ∈ es, e.2.isCell = true := by
  induction es with
  | nil => simp [badCell?]
  | cons e es ih =>
    obtain ⟨column, v⟩ := e
    cases v with
    | value _ | data _ _ | raw _ => simpa [badCell?, Operand.isCell] using ih
    | list _ | object _ => simp [badCell?, Operand.isCell]

/-- A row whose fields can all stand in a cell is added. -/
theorem addRow_accepted {f : Fields} (h : badCell? f.entries = none) (d : Draft) :
    addRow f d = (.ok (), { d with query := d.query.withRow f }) := by
  unfold addRow
  rw [h]
  dsimp only
  rw [leaveAllColumns, bind_of_ok (change_apply _ d), change_apply]
  by_cases hall : d.query.columns = allColumns
  · simp [Query.hasAllColumns, Query.withRow, Query.columnsWith, hall]
  · simp [Query.hasAllColumns, Query.withRow, Query.columnsWith, hall]

/-- Any other row is refused, and nothing has changed. -/
theorem addRow_refused {f : Fields} {column : String} (h : badCell? f.entries = some column)
    (d : Draft) : addRow f d = (.error (.misfit (.cell column)), d) := by
  unfold addRow
  rw [h]
  rfl

end Edit
end SqlBuilder
