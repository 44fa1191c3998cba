import SqlBuilder.Proofs.Compile.ClauseOrder
import SqlBuilder.Proofs.Conditions.Solid
import SqlBuilder.Proofs.Merging.TakesOver
import SqlBuilder.Proofs.Rows.Positional

/-!
# As many columns as cells

The cells of a row are written from the column list, and the column list is written too, unless it
is the list that stands for all columns. So every tuple has as many cells as columns are named,
except if that list comes back after a row was added, or a row has a field named by the star: then
no column is named, and every tuple has one cell (`Session.arity_of_rows`,
`Session.starBack_names_none`).

An empty name would not be seen in the text. If the caller gives none, no column list has one: the
texts of values and of queries are never empty, and the other names are the caller's
(`Session.namedColumns_run`).
-/

namespace SqlBuilder

/-! ## The column list in the text -/

namespace Query

theorem length_listed_of_two (first second : String) (rest : List String) :
    2 ≤ (listed (first :: second :: rest)).length := by
  have hcomma : (", " : String).length = 2 := rfl
  rw [listed, String.intercalate_cons_cons, String.length_append, String.length_append, hcomma]
  omega

theorem namedColumns_of_all {q : Query} (h : q.columns = allColumns) : q.namedColumns = [] := by
  simp [namedColumns, hasAllColumns, h]

theorem namedColumns_of_chosen {q : Query} (h : q.columns ≠ allColumns) :
    q.namedColumns = q.columns := by
  simp [namedColumns, hasAllColumns, h]

/-- The columns stand in the list as they are, unless none of them is named. -/
theorem columnList_eq {q : Query} (h : "" ∉ q.columns) :
    q.columnList = if q.namedColumns = [] then " " else " " ++ listed q.namedColumns ++ " " := by
  by_cases hall : q.columns = allColumns
  · have hstar : listed allColumns = "*" := by decide
    simp [columnList, chosenColumns, namedColumns_of_all hall, hall, hstar]
  · have hchosen : q.chosenColumns = [] ↔ q.columns = [] := by
      simp only [chosenColumns]
      match hcolumns : q.columns with
      | [] => simp [listed]
      | [column] =>
        have hone : listed [column] = column := String.intercalate_singleton
        have hblank : column ≠ "" := fun heq => h (by rw [hcolumns, heq]; exact .head _)
        have hstar : column ≠ "*" := fun heq => hall (by rw [hcolumns, heq]; rfl)
        simp [hone, hblank, hstar]
      | first :: second :: rest =>
        have hlong := length_listed_of_two first second rest
        have hblank : listed (first :: second :: rest) ≠ "" := fun heq => by
          rw [heq] at hlong
          exact absurd hlong (by decide)
        have hstar : listed (first :: second :: rest) ≠ "*" := fun heq => by
          rw [heq] at hlong
          exact absurd hlong (by decide)
        simp [hblank, hstar]
    simp only [columnList, namedColumns_of_chosen hall, hchosen]

/-- Every tuple has as many cells as columns are named, unless the list stands for all columns. -/
theorem length_cells_eq_namedColumns_iff {q : Query} (hrows : q.rows ≠ []) :
    (∀ f ∈ q.rows, (cells q.columns f).length = q.namedColumns.length) ↔
      q.columns ≠ allColumns := by
  simp only [length_cells]
  obtain ⟨f, fs, hf⟩ := List.exists_cons_of_ne_nil hrows
  by_cases hall : q.columns = allColumns
  · refine iff_of_false (fun h => ?_) (not_not_intro hall)
    have hlength := h f (by rw [hf]; exact .head _)
    rw [hall, namedColumns_of_all hall] at hlength
    cases hlength
  · simp [namedColumns_of_chosen hall, hall]

theorem writesRows_of_compile {q : Query} {c : Compiled} (haction : q.action = some .insert)
    (hrows : q.rows ≠ []) (hc : q.compile = .ok c) : q.WritesRows := by
  refine ⟨haction, ?_, hrows⟩
  by_contra hsource
  rw [compile, haction] at hc
  simp only [require, hsource] at hc
  cases hc

end Query

/-! ## Names of columns -/

/-- The name that a column is given by the caller. -/
def Column.givenNames {Q : Type} : Column Q → List String
  | name s | value (.text s) => [s]
  | _ => []

/-- The names of columns that a call gives. -/
def Call.columnNames {Q : Type} : Call Q → List String
  | columns cs | selectColumns cs => cs.flatMap Column.givenNames
  | addColumn c _ => c.givenNames
  | addRow f => f.keys
  | deleteFromTables names aliasName => aliasName.toList ++ names
  | _ => []

theorem Text.Solid.ne_empty {s : String} (h : Text.Solid s) : s ≠ "" := by
  rintro rfl
  exact absurd h (by decide)

theorem Binder.bind_ne_empty (v : Value) (modifier : Option String) :
    Keeps (fun _ => True) (· ≠ "") (Binder.bind v modifier : Render String) := by
  intro b hb
  obtain ⟨-, hsolid⟩ := Binder.bind_solid v modifier b hb
  exact ⟨trivial, fun text htext => (hsolid text htext).ne_empty⟩

/-- A column has a text unless the caller names it by none. -/
theorem Column.text_ne_empty {c : Column Query} (h : "" ∉ c.givenNames) :
    Keeps (fun _ => True) (· ≠ "") c.text := by
  have hname {s : String} (hs : "" ∉ [s]) : Keeps (fun _ => True) (· ≠ "") (pure s : Render _) :=
    .pure fun heq => hs (by simp [heq])
  cases c with
  | name s => exact hname h
  | data v modifier => exact Binder.bind_ne_empty v modifier
  | value v =>
    cases v with
    | text s => exact hname h
    | int n => exact Binder.bind_ne_empty (.int n) none
    | float x => exact Binder.bind_ne_empty (.float x) none
    | time t => exact Binder.bind_ne_empty (.time t) none
    | null | bool _ => exact .throw _
  | query q =>
    intro b _
    refine ⟨trivial, fun s hs => ?_⟩
    by_cases hsingle : isSingle q
    · have htext : text (.query q) b = q.embed b := by
        simp only [text, hsingle]
        rfl
      rw [htext] at hs
      obtain ⟨rfl, -⟩ := Query.embed_eq_ok (Prod.ext hs rfl)
      have hopen : Text.Solid "(" := by decide
      exact (((hopen.append_right _).append_right _).append_right _).ne_empty
    · simp only [text, hsingle] at hs
      cases hs

/-! ## Queries whose columns have names -/

/-- No column of the query has an empty name. -/
def Draft.NamesColumns (d : Draft) : Prop := "" ∉ d.query.columns

namespace Edit

/-- Another column list without empty names. -/
theorem keeps_columns {f : Query → Query}
    (h : ∀ q, "" ∉ q.columns → "" ∉ (f q).columns) :
    Keeps Draft.NamesColumns (fun _ => True) (change f) :=
  change_keeps (fun d hd => h d.query hd) trivial

theorem addColumn_keepsNames {c : Column Query} (h : "" ∉ c.givenNames) (unique : Bool) :
    Keeps Draft.NamesColumns (fun _ => True) (addColumn c unique) := by
  refine .bind (keeps_columns fun q hq => ?_) fun _ _ =>
    .bind (write_keeps (fun _ _ hd => hd) (Column.text_ne_empty h)) fun text htext =>
      keeps_columns fun q hq => ?_
  · split
    · exact List.not_mem_nil
    · exact hq
  · split
    · exact hq
    · simp [hq, Ne.symm htext]

theorem columns_keepNames {cs : List (Column Query)} (h : "" ∉ cs.flatMap Column.givenNames) :
    Keeps Draft.NamesColumns (fun _ => True) (columns cs) := by
  have hadd : Keeps Draft.NamesColumns (fun _ => True) (addColumns cs) := by
    induction cs with
    | nil => exact .pure trivial
    | cons c cs ih =>
      rw [List.flatMap_cons, List.mem_append, not_or] at h
      exact .bind (addColumn_keepsNames h.1 false) fun _ _ => ih h.2
  refine .bind (keeps_columns fun _ _ => List.not_mem_nil) fun _ _ => .bind hadd fun _ _ =>
    keeps_columns fun q hq => ?_
  split
  · simp [allColumns]
  · exact hq

theorem names_keepNames {names : List String} (h : "" ∉ names) :
    Keeps Draft.NamesColumns (fun _ => True) (columns (names.map .name)) := by
  refine columns_keepNames ?_
  rw [List.flatMap_map]
  simpa [Column.givenNames] using h

/-- A row that is added gives the names of its fields. -/
theorem addRow_keepsNames {f : Fields} {d : Draft} (hd : d.NamesColumns) (h : "" ∉ f.keys) :
    (addRow f d).2.NamesColumns := by
  cases hbad : badCell? f.entries with
  | some column =>
    rw [addRow_refused hbad]
    exact hd
  | none =>
    rw [addRow_accepted hbad]
    intro hmem
    rcases mem_withNames.1 hmem with hmem | hmem
    · split at hmem
      · cases hmem
      · exact hd hmem
    · exact h hmem

/-- A row given cell by cell only has names of columns. -/
theorem addRowValues_keepsNames (vs : List Operand) {d : Draft} (hd : d.NamesColumns) :
    (addRowValues vs d).2.NamesColumns := by
  rw [addRowValues_apply]
  cases !d.query.hasAllColumns && !d.query.columns.isEmpty with
  | false => exact hd
  | true =>
    refine addRow_keepsNames hd fun hmem => ?_
    obtain ⟨e, he, hname⟩ := List.mem_map.1 hmem
    have hcolumn := (List.of_mem_zip (Entries.mem_of_mem_ofPairs he)).1
    exact hd (hname ▸ hcolumn)

end Edit

namespace Call

theorem namesColumns_run {c : Call Query} (h : "" ∉ c.columnNames) {d : Draft}
    (hd : d.NamesColumns) : (c.run d).2.NamesColumns := by
  have hleaves (hc : c.run.Leaves Query.columns) : (c.run d).2.NamesColumns := by
    unfold Draft.NamesColumns
    rwa [hc d]
  rw [run_snd] at hleaves ⊢
  have hkeeps (hc : Keeps Draft.NamesColumns (fun _ => True) c.edit) :
      (c.edit d).2.NamesColumns := (hc d hd).1
  cases c with
  | columns cs => exact hkeeps (Edit.columns_keepNames h)
  | selectColumns cs =>
    exact hkeeps (.bind (P := fun _ => True) (Edit.keeps_columns fun _ hq => hq)
      fun _ _ => Edit.columns_keepNames h)
  | addColumn column unique => exact hkeeps (Edit.addColumn_keepsNames h unique)
  | addRow f => exact Edit.addRow_keepsNames hd h
  | addRowValues vs => exact Edit.addRowValues_keepsNames vs hd
  | deleteFromTables names aliasName =>
    refine hkeeps (.bind (P := fun _ => True) (Edit.keeps_columns fun _ hq => hq) fun _ _ => ?_)
    cases names with
    | nil => exact .throw _
    | cons first rest =>
      cases aliasName with
      | none => exact Edit.names_keepNames h
      | some a =>
        refine .bind (P := fun _ => True) (Edit.keeps_columns fun _ hq => hq)
          fun _ _ => Edit.names_keepNames fun hmem => h ?_
        change "" ∈ a :: first :: rest
        rcases List.mem_cons.1 hmem with rfl | hmem
        · exact .head _
        · exact .tail _ (.tail _ hmem)
  | _ => exact hleaves (leaves_run fun _ => rfl)

section Resolve

variable {Q R : Type} {find? : Q → Option R}

theorem givenNames_resolveColumn {c : Column Q} {e : Column R}
    (h : resolveColumn find? c = some e) : e.givenNames = c.givenNames := by
  cases c with
  | query _ =>
    obtain ⟨_, -, rfl⟩ := Option.map_eq_some_iff.1 h
    rfl
  | value v =>
    cases h
    cases v <;> rfl
  | name _ | data _ _ =>
    cases h
    rfl

theorem givenNames_resolveColumns {cs : List (Column Q)} {es : List (Column R)}
    (h : cs.mapM (resolveColumn find?) = some es) :
    es.flatMap Column.givenNames = cs.flatMap Column.givenNames := by
  induction cs generalizing es with
  | nil =>
    cases h
    rfl
  | cons c cs ih =>
    rw [List.mapM_cons] at h
    obtain ⟨e, he, h⟩ := Option.bind_eq_some_iff.1 h
    obtain ⟨es, hes, h⟩ := Option.bind_eq_some_iff.1 h
    cases h
    rw [List.flatMap_cons, List.flatMap_cons, givenNames_resolveColumn he, ih hes]

theorem columnNames_resolve {c : Call Q} {e : Call R} (h : c.resolve find? = some e) :
    e.columnNames = c.columnNames := by
  cases c with
  | columns cs | selectColumns cs =>
    obtain ⟨es, hes, rfl⟩ := Option.map_eq_some_iff.1 h
    exact givenNames_resolveColumns hes
  | addColumn c unique =>
    obtain ⟨e, he, rfl⟩ := Option.map_eq_some_iff.1 h
    exact givenNames_resolveColumn he
  | addCondition _ _ _ _ | fromSubquery _ _ | join _ _ =>
    obtain ⟨_, -, rfl⟩ := Option.map_eq_some_iff.1 h
    rfl
  | _ =>
    cases h
    rfl

end Resolve

end Call

/-- The command reads no snapshot and gives no column an empty name. -/
def Command.NamesColumns : Command → Prop
  | .create _ how => how.readsState = false
  | .call _ c => "" ∉ c.columnNames
  | _ => True

instance : (c : Command) → Decidable c.NamesColumns
  | .create _ _ => inferInstanceAs (Decidable (_ = _))
  | .call _ c => inferInstanceAs (Decidable ("" ∉ c.columnNames))
  | .setDefaultBound _ | .compile _ | .literalText _ | .state _ | .equals _ _ | .exec _ _ =>
    .isTrue trivial

namespace Session

/-- No column of any query has an empty name. -/
def NamesColumns (s : Session) : Prop :=
  ∀ name q, s.queries.get? name = some q → "" ∉ q.columns

theorem NamesColumns.insert {s : Session} (h : s.NamesColumns) {q : Query} (hq : "" ∉ q.columns)
    (name : String) (lastId : Nat) :
    NamesColumns { s with queries := s.queries.insert name q, lastId := lastId } :=
  fun _ _ => forall_insert (P := fun _ q => "" ∉ q.columns) hq fun other r _ => h other r

theorem namesColumns_step {s : Session} (h : s.NamesColumns) {c : Command} (hc : c.NamesColumns) :
    (s.step c).2.NamesColumns := by
  generalize ht : (s.step c).2 = t
  have hmoves := ht ▸ s.moves_step c
  cases hmoves with
  | rests _ hqueries _ => exact fun name q hq => h name q (hqueries ▸ hq)
  | creates name hq =>
    refine h.insert ?_ name s.lastId
    rcases Creation.query_cases hq hc with ⟨other, hother⟩ | hbegins
    · exact h other _ hother
    · rw [hbegins]
      simp [allColumns]
  | calls hq hd =>
    refine h.insert (Call.namesColumns_run ?_ (h _ _ hq)) _ _
    rw [Call.columnNames_resolve hd]
    exact hc

theorem namesColumns_run {s : Session} (h : s.NamesColumns) {cs : List Command}
    (hcs : ∀ c ∈ cs, c.NamesColumns) : (s.run cs).2.NamesColumns := by
  induction cs generalizing s with
  | nil => exact h
  | cons c cs ih =>
    rw [List.forall_mem_cons] at hcs
    exact ih (namesColumns_step h hcs.1) hcs.2

/-- **Arity of an insert with rows.** Let a script give no column an empty name, and let an insert
with rows that it comes to compile. Then its text has the named columns between parentheses, none of
them empty, and one tuple for every row, with a cell for every column of the list. Every tuple has
as many cells as columns are named if and only if the list is not the one that stands for all
columns. -/
theorem arity_of_rows {cs : List Command} (hcs : ∀ c ∈ cs, c.NamesColumns) {name : String}
    {q : Query} (hq : (run {} cs).2.queries.get? name = some q) (haction : q.action = some .insert)
    (hrows : q.rows ≠ []) {c : Compiled} (hc : q.compile = .ok c) :
    c.query = q.insertMode.keyword ++ " INTO " ++ q.source ++ " (" ++
        (if q.namedColumns = [] then " " else " " ++ listed q.namedColumns ++ " ") ++
          ") VALUES " ++ listed (q.rows.map fun f => Query.rowText (Query.cells q.columns f)) ∧
      (∀ column ∈ q.namedColumns, column ≠ "") ∧
      (∀ f ∈ q.rows, (Query.cells q.columns f).length = q.columns.length) ∧
      ((∀ f ∈ q.rows, (Query.cells q.columns f).length = q.namedColumns.length) ↔
        q.columns ≠ allColumns) := by
  have hempty : NamesColumns {} := fun name q hq => by
    rw [Dict.get?_empty] at hq
    cases hq
  have hnames : "" ∉ q.columns := namesColumns_run hempty hcs name q hq
  have hwrites := Query.writesRows_of_compile haction hrows hc
  obtain rfl : q.insertRows = c := Except.ok.inj (hwrites.compile_eq.symm.trans hc)
  refine ⟨?_, fun column hcolumn heq => ?_, fun f _ => Query.length_cells _ f,
    Query.length_cells_eq_namedColumns_iff hrows⟩
  · rw [← Query.columnList_eq hnames]
    exact q.insertRows_query
  · unfold Query.namedColumns at hcolumn
    split at hcolumn
    · cases hcolumn
    · exact hnames (heq ▸ hcolumn)

/-- Columns are chosen before, between and after the rows. -/
def chosenAround : List Command :=
  [.create "q" (.inserting .replace), .call "q" (.table "t" none),
    .call "q" (.columns [.name "a", .name "b"]), .call "q" (.addRowValues [.value (.int 1)]),
    .call "q" (.addColumn (.name "c") true),
    .call "q" (.addRow ⟨[("d", .value (.bool true)), ("a", .value (.int 2))]⟩),
    .call "q" (.addColumn (.name "a") false)]

theorem arity_of_rows_chosenAround :
    (∀ c ∈ chosenAround, c.NamesColumns) ∧
      ∃ q c, (run {} chosenAround).2.queries.get? "q" = some q ∧ q.action = some .insert ∧
        q.rows.length = 2 ∧ q.compile = .ok c ∧
        c.query = "REPLACE INTO `t` ( a, b, c, d, a ) VALUES (?, NULL, NULL, NULL, ?), " ++
          "(?, NULL, NULL, TRUE, ?)" ∧
        q.namedColumns.length = 5 ∧
        ∀ f ∈ q.rows, (Query.cells q.columns f).length = q.namedColumns.length := by
  have hnames : ∀ c ∈ chosenAround, c.NamesColumns := by decide
  have hquery : ((run {} chosenAround).2.queries.get? "q").map (fun q =>
      (q.action, q.columns, q.rows.length, q.compile)) =
      some (some .insert, ["a", "b", "c", "d", "a"], 2, .ok
        ⟨"REPLACE INTO `t` ( a, b, c, d, a ) VALUES (?, NULL, NULL, NULL, ?), " ++
          "(?, NULL, NULL, TRUE, ?)", [.int 1, .int 1, .int 2, .int 2]⟩) := by
    decide +kernel
  obtain ⟨q, hq, hquery⟩ := Option.map_eq_some_iff.1 hquery
  simp only [Prod.mk.injEq] at hquery
  obtain ⟨haction, hcolumns, hlength, hc⟩ := hquery
  have hrows : q.rows ≠ [] := fun hnil => by
    rw [hnil] at hlength
    cases hlength
  have hchosen : q.columns ≠ allColumns := by
    rw [hcolumns]
    decide
  obtain ⟨-, -, -, harity⟩ := arity_of_rows hnames hq haction hrows hc
  refine ⟨hnames, q, _, hq, haction, hlength, hc, rfl, ?_, harity.2 hchosen⟩
  rw [Query.namedColumns_of_chosen hchosen, hcolumns]
  rfl

/-- The star becomes the column list after a row was added. -/
def starBack : List Command :=
  [.create "q" (.inserting .insert), .call "q" (.table "t" none),
    .call "q" (.addRow ⟨[("a", .value (.int 1))]⟩), .call "q" (.columns [.name "*"])]

/-- The only field of the row is named by the star. -/
def starField : List Command :=
  [.create "q" (.inserting .insert), .call "q" (.table "t" none),
    .call "q" (.addRow ⟨[("*", .value (.int 1))]⟩)]

/-- No column is named, and the tuple has a cell. -/
theorem starBack_names_none :
    (∀ c ∈ starBack, c.NamesColumns) ∧ (∀ c ∈ starField, c.NamesColumns) ∧
      ((run {} starBack).2.queries.get? "q").map (fun q =>
        (q.compile, q.namedColumns, q.rows.map fun f => (Query.cells q.columns f).length)) =
          some (.ok ⟨"INSERT INTO `t` ( ) VALUES (NULL)", []⟩, [], [1]) ∧
      ((run {} starField).2.queries.get? "q").map (fun q =>
        (q.compile, q.namedColumns, q.rows.map fun f => (Query.cells q.columns f).length)) =
          some (.ok ⟨"INSERT INTO `t` ( ) VALUES (?)", [.int 1]⟩, [], [1]) := by
  decide +kernel

end Session
end SqlBuilder
