import Mathlib.Data.List.Nodup
import SqlBuilder.Proofs.Rows.Added
import SqlBuilder.Proofs.Substitution.Edit

/-!
# Rows given cell by cell

The operands of such a row are put under the names of the columns, one after the other, and are
looked up by these names when the statement is written. A second operand under the same name
replaces the first, so what a column shows is the last operand that stands over a column of its
name (`Query.operandGiven`).

If the names are distinct that is the operand over the column itself, and columns without an
operand are null (`Query.map_operandGiven`). With a repeated name there are always operands that do
not come out in their places (`Query.positional_iff_nodup`), and operands behind the last column
are dropped in any case (`Session.repeatedName_shows_last`).
-/

namespace SqlBuilder

/-! ## Looking up what was put in -/

namespace Query

/-- The row whose operands stand over the columns. -/
def rowOver (columns : List String) (vs : List Operand) : Fields := .ofPairs (columns.zip vs)

/-- The last operand that stands over a column of that name. -/
def operandGiven (columns : List String) (vs : List Operand) (name : String) : Option Operand :=
  ((columns.zip vs).filter (·.1 = name)).getLast?.map Prod.snd

theorem get?_rowOver (columns : List String) (vs : List Operand) (name : String) :
    (rowOver columns vs).get? name = operandGiven columns vs name :=
  Entries.get?_ofPairs name _

theorem operandGiven_of_not_mem {columns : List String} {name : String} (h : name ∉ columns)
    (vs : List Operand) : operandGiven columns vs name = none := by
  have hnone : (columns.zip vs).filter (·.1 = name) = [] := by
    refine List.filter_eq_nil_iff.2 fun p hp hname => ?_
    rw [decide_eq_true_eq] at hname
    exact h (hname ▸ (List.of_mem_zip hp).1)
  rw [operandGiven, hnone]
  rfl

theorem operandGiven_cons_of_ne {column name : String} (h : column ≠ name)
    (columns : List String) (v : Operand) (vs : List Operand) :
    operandGiven (column :: columns) (v :: vs) name = operandGiven columns vs name := by
  simp [operandGiven, h]

theorem operandGiven_cons_self {column : String} {columns : List String} (h : column ∉ columns)
    (v : Operand) (vs : List Operand) :
    operandGiven (column :: columns) (v :: vs) column = some v := by
  have hrest := operandGiven_of_not_mem h vs
  rw [operandGiven, Option.map_eq_none_iff, List.getLast?_eq_none_iff] at hrest
  simp [operandGiven, hrest]

/-- Over distinct names every operand stands alone. -/
theorem map_operandGiven {columns : List String} (h : columns.Nodup) (vs : List Operand) :
    columns.map (operandGiven columns vs) =
      (vs.take columns.length).map some ++ List.replicate (columns.length - vs.length) none := by
  induction columns generalizing vs with
  | nil => simp
  | cons column columns ih =>
    obtain ⟨hcolumn, hcolumns⟩ := List.nodup_cons.1 h
    cases vs with
    | nil =>
      have hnone : operandGiven (column :: columns) [] = fun _ => none := rfl
      rw [hnone, List.map_const']
      simp
    | cons v vs =>
      have htail : columns.map (operandGiven (column :: columns) (v :: vs)) =
          columns.map (operandGiven columns vs) := by
        refine List.map_congr_left fun name hname => ?_
        have hne : column ≠ name := fun heq => hcolumn (heq ▸ hname)
        exact operandGiven_cons_of_ne hne columns v vs
      rw [List.map_cons, operandGiven_cons_self hcolumn, htail, ih hcolumns]
      simp

/-! ## Cells -/

theorem cells_rowOver (columns more : List String) (vs : List Operand) :
    cells more (rowOver columns vs) = more.map fun name => cell (operandGiven columns vs name) := by
  simp only [cells, get?_rowOver]

/-- Columns that come later are null in the row. -/
theorem cells_rowOver_append {columns more : List String} (h : ∀ name ∈ more, name ∉ columns)
    (vs : List Operand) : cells (columns ++ more) (rowOver columns vs) =
      cells columns (rowOver columns vs) ++ List.replicate more.length ("NULL", []) := by
  have hnull : cells more (rowOver columns vs) = List.replicate more.length ("NULL", []) := by
    rw [cells_rowOver, ← List.map_const']
    refine List.map_congr_left fun name hname => ?_
    rw [operandGiven_of_not_mem (h name hname)]
    rfl
  rw [← hnull, cells, cells, cells, List.map_append]

/-- The cells of a row given cell by cell, if its operands come out in their places. -/
def cellsInPlace (columns : List String) (vs : List Operand) : List (String × List Value) :=
  (vs.take columns.length).map (fun v => cell (some v)) ++
    List.replicate (columns.length - vs.length) ("NULL", [])

theorem cells_rowOver_of_nodup {columns : List String} (h : columns.Nodup) (vs : List Operand) :
    cells columns (rowOver columns vs) = cellsInPlace columns vs := by
  have hmap := congrArg (List.map cell) (map_operandGiven h vs)
  rw [List.map_map, List.map_append, List.map_map, List.map_replicate] at hmap
  rw [cells_rowOver]
  exact hmap

theorem rowData_rowOver_of_nodup {columns : List String} (h : columns.Nodup) (vs : List Operand) :
    rowData columns (rowOver columns vs) =
      (vs.take columns.length).filterMap Operand.marked? := by
  have hmap := congrArg (List.filterMap fun v => Option.bind v Operand.marked?)
    (map_operandGiven h vs)
  rw [List.filterMap_map, List.filterMap_append, List.filterMap_map] at hmap
  simp only [rowData, get?_rowOver]
  refine hmap.trans ?_
  simp

/-- **Rows are positional exactly over distinct names.** -/
theorem positional_iff_nodup (columns : List String) :
    columns.Nodup ↔ ∀ vs : List Operand, (∀ v ∈ vs, v.isCell = true) →
      cells columns (rowOver columns vs) = cellsInPlace columns vs := by
  refine ⟨fun h vs _ => cells_rowOver_of_nodup h vs, fun h => ?_⟩
  rw [List.nodup_iff_getElem?_ne_getElem?]
  intro i j hij hj hname
  -- Over the first of two columns of one name stands another text than over all the others.
  let vs : List Operand :=
    (List.range columns.length).map fun k => .raw (if k = i then "0" else "1")
  have hplace := h vs fun v hv => by
    obtain ⟨k, -, rfl⟩ := List.mem_map.1 hv
    rfl
  have hat (k : Nat) (hk : k < columns.length) : (cells columns (rowOver columns vs))[k]? =
      some (if k = i then "0" else "1", []) := by
    rw [hplace, cellsInPlace]
    simp [vs, hk, cell]
  have hi := hat i (by omega)
  have hj' := hat j hj
  rw [cells, List.getElem?_map] at hi hj'
  rw [hname, hj'] at hi
  simp [show j ≠ i by omega] at hi

end Query

/-! ## Adding the row -/

namespace Edit

open Query (rowOver)

/-- If the columns were chosen, operands that can stand in cells make a row. -/
theorem addRowValues_accepted {d : Draft} (hne : d.query.columns ≠ [])
    (hall : d.query.columns ≠ allColumns) {vs : List Operand} (hvs : ∀ v ∈ vs, v.isCell = true) :
    addRowValues vs d = (.ok (), { d with
      query := { d.query with rows := d.query.rows ++ [rowOver d.query.columns vs] } }) := by
  have hchosen : (!d.query.hasAllColumns && !d.query.columns.isEmpty) = true := by
    simp [Query.hasAllColumns, hall, hne]
  have hbad : badCell? (rowOver d.query.columns vs).entries = none := by
    refine (badCell?_eq_none_iff _).2 fun e he => ?_
    exact hvs _ (List.of_mem_zip (Entries.mem_of_mem_ofPairs he)).2
  have hnames : Query.columnsWith d.query.columns (rowOver d.query.columns vs) =
      d.query.columns := by
    rw [Query.columnsWith_of_chosen hall, withNames_eq]
    have hknown : (rowOver d.query.columns vs).keys.removeAll d.query.columns = [] := by
      refine List.filter_eq_nil_iff.2 fun name hname => ?_
      obtain ⟨e, he, rfl⟩ := List.mem_map.1 hname
      have hcolumn := (List.of_mem_zip (Entries.mem_of_mem_ofPairs he)).1
      simpa using hcolumn
    rw [hknown]
    exact List.append_nil _
  rw [addRowValues_apply, hchosen]
  refine (addRow_accepted hbad d).trans ?_
  rw [Query.withRow, hnames]

end Edit

namespace Call

open Query (rowOver operandGiven cellsInPlace)

/-- **What a row given cell by cell shows.** Let the columns be chosen and let every operand be one
that can stand in a cell. The call puts one row behind the others and does nothing else. An insert
then compiles with the old tuples and a tuple of the new row behind them, in which every column
shows the last operand that was given over a column of its name; columns that come later are null in
it. If the names of the columns are distinct, the operands come out in their places with nulls
behind them, and the data of the row is what was given. -/
theorem positional_row {d : Draft} (hne : d.query.columns ≠ [])
    (hall : d.query.columns ≠ allColumns) {vs : List Operand} (hvs : ∀ v ∈ vs, v.isCell = true) :
    ∃ f e, (addRowValues vs).run d = (.ok none, e) ∧
      e = { d with query := { d.query with rows := d.query.rows ++ [f] } } ∧
      (d.query.action = some .insert → d.query.hasSource = true → e.query.compile = .ok
        { query := d.query.insertMode.keyword ++ " INTO " ++ d.query.source ++ " (" ++
            d.query.columnList ++ ") VALUES " ++ listed (d.query.rows.map d.query.tuple ++
              [Query.rowText (Query.cells d.query.columns f)])
          data := d.query.rows.flatMap (Query.rowData d.query.columns) ++
            Query.rowData d.query.columns f }) ∧
      Query.cells d.query.columns f =
        d.query.columns.map (fun name => Query.cell (operandGiven d.query.columns vs name)) ∧
      (∀ more, (∀ name ∈ more, name ∉ d.query.columns) →
        Query.cells (d.query.columns ++ more) f =
          Query.cells d.query.columns f ++ List.replicate more.length ("NULL", [])) ∧
      (d.query.columns.Nodup → Query.cells d.query.columns f = cellsInPlace d.query.columns vs ∧
        Query.rowData d.query.columns f =
          (vs.take d.query.columns.length).filterMap Operand.marked?) := by
  refine ⟨rowOver d.query.columns vs, _, bind_of_ok (Edit.addRowValues_accepted hne hall hvs), rfl,
    fun haction hsource => ?_, Query.cells_rowOver _ _ vs,
    fun more hmore => Query.cells_rowOver_append hmore vs, fun hnodup =>
      ⟨Query.cells_rowOver_of_nodup hnodup vs, Query.rowData_rowOver_of_nodup hnodup vs⟩⟩
  exact Query.compile_of_last_row d.query.columns _ rfl haction hsource

/-- An insert that chose its columns and has a row, one column of which it does not fill. -/
def chosenThree : Draft :=
  ⟨{ action := some .insert, tableName := some "t", columns := ["a", "b", "c"]
     rows := [⟨[("b", .value (.int 1))]⟩] }, 0, []⟩

theorem positional_row_chosenThree :
    let vs : List Operand := [.data (.text "x") (some "UPPER"), .raw "NOW()"]
    chosenThree.query.columns ≠ [] ∧ chosenThree.query.columns ≠ allColumns ∧
      (∀ v ∈ vs, v.isCell = true) ∧ chosenThree.query.columns.Nodup ∧
      ∃ e, (addRowValues vs).run chosenThree = (.ok none, e) ∧ e.query.compile = .ok
        ⟨"INSERT INTO `t` ( a, b, c ) VALUES (NULL, ?, NULL), (?, NOW(), NULL)",
          [.int 1, .text "x"]⟩ := by
  intro vs
  have hne : chosenThree.query.columns ≠ [] := by decide
  have hall : chosenThree.query.columns ≠ allColumns := by decide
  have hvs : ∀ v ∈ vs, v.isCell = true := by decide
  have hnodup : chosenThree.query.columns.Nodup := by decide
  obtain ⟨f, e, hrun, -, hcompile, -, -, hplace⟩ := positional_row hne hall hvs
  obtain ⟨hcells, hdata⟩ := hplace hnodup
  refine ⟨hne, hall, hvs, hnodup, e, hrun, ?_⟩
  rw [hcompile rfl (by decide), hcells, hdata]
  decide +kernel

end Call

namespace Session

/-- Two operands for two columns of the same name. -/
def repeatedName : List Command :=
  [.create "q" (.inserting .insert), .call "q" (.table "t" none),
    .call "q" (.columns [.name "a", .name "a"]),
    .call "q" (.addRowValues [.value (.int 1), .value (.int 2)])]

/-- One operand more than there are columns. -/
def overlongRow : List Command :=
  [.create "q" (.inserting .insert), .call "q" (.table "t" none),
    .call "q" (.columns [.name "a"]),
    .call "q" (.addRowValues [.value (.int 1), .value (.int 2)])]

/-- Both columns show the second operand. An operand behind the last column is dropped. -/
theorem repeatedName_shows_last :
    ((run {} repeatedName).2.queries.get? "q").map Query.compile =
        some (.ok ⟨"INSERT INTO `t` ( a, a ) VALUES (?, ?)", [.int 2, .int 2]⟩) ∧
      ((run {} overlongRow).2.queries.get? "q").map Query.compile =
        some (.ok ⟨"INSERT INTO `t` ( a ) VALUES (?)", [.int 1]⟩) := by
  decide +kernel

end Session
end SqlBuilder
