import SqlBuilder.Proofs.Merging.Embedding

/-!
# Replacing the column list

`Edit.columns` empties the list and adds the new names one by one, and every name that is added
looks at the list as it is by then. A list that is a single star stands for all columns, whether it
was there from the start or the star is the first of the names that are given. So a star at the
head of the given names gives way to the name behind it, and what is installed is the list from the
last star of such a run on (`Query.installed`).

That is the whole difference. Every other list is installed as it was given
(`Query.installed_eq_self_iff`), repeated names included, and the compiled selection names what was
installed (`Query.exists_projection`). The shortest list that loses a name is a star and one name
(`Session.starGiven_dropped`).
-/

namespace SqlBuilder

open Placeholder

namespace Query

/-- The names that are left in the column list. A star at the head gives way to what follows. -/
def installed : List String → List String
  | [] => []
  | [name] => [name]
  | name :: next :: rest =>
    if [name] = allColumns then installed (next :: rest) else name :: next :: rest

/-- Nothing but stars at the head is lost. -/
theorem exists_replicate_append_installed (names : List String) :
    ∃ n, names = List.replicate n "*" ++ installed names := by
  induction names using installed.induct with
  | case1 | case2 name => exact ⟨0, rfl⟩
  | case3 name next rest hstar ih =>
    obtain ⟨n, hn⟩ := ih
    obtain rfl : name = "*" := (List.cons.inj hstar).1
    refine ⟨n + 1, ?_⟩
    rw [installed, if_pos hstar, List.replicate_succ, List.cons_append, ← hn]
  | case4 name next rest hstar => exact ⟨0, by rw [installed, if_neg hstar]; rfl⟩

theorem length_installed_le (names : List String) : (installed names).length ≤ names.length := by
  obtain ⟨n, hn⟩ := exists_replicate_append_installed names
  have hlength := congrArg List.length hn
  rw [List.length_append] at hlength
  omega

/-- A list is installed as it was given unless it has a star before other names. -/
theorem installed_eq_self_iff (names : List String) :
    installed names = names ↔ (names.head? = some "*" → names.length = 1) := by
  match names with
  | [] | [_] => simp [installed]
  | name :: next :: rest =>
    by_cases hstar : name = "*"
    · subst hstar
      have hlost : (installed (next :: rest)).length ≠ ("*" :: next :: rest).length := by
        have hle := length_installed_le (next :: rest)
        rw [List.length_cons]
        omega
      have hne : installed ("*" :: next :: rest) ≠ "*" :: next :: rest := by
        have hstar : ["*"] = allColumns := rfl
        rw [installed, if_pos hstar]
        exact fun h => hlost (congrArg List.length h)
      simp [hne]
    · simp [installed, allColumns, hstar]

theorem installed_ne_nil {names : List String} (h : names ≠ []) : installed names ≠ [] := by
  induction names using installed.induct with
  | case1 => exact h
  | case2 name => simp [installed]
  | case3 name next rest hstar ih => rw [installed, if_pos hstar]; exact ih (by simp)
  | case4 name next rest hstar => simp [installed, hstar]

/-! ## Adding names -/

/-- A column list with a name added. -/
def withColumn (columns : List String) (name : String) : List String :=
  (if columns = allColumns then [] else columns) ++ [name]

/-- Once something has been chosen, names are only appended. -/
theorem foldl_withColumn_of_chosen {columns : List String} (hne : columns ≠ [])
    (hall : columns ≠ allColumns) (names : List String) :
    names.foldl withColumn columns = columns ++ names := by
  induction names generalizing columns with
  | nil => rw [List.foldl_nil, List.append_nil]
  | cons name names ih =>
    have hadd : withColumn columns name = columns ++ [name] := by rw [withColumn, if_neg hall]
    have hlong : columns ++ [name] ≠ allColumns := fun h => by
      have hlength : (columns ++ [name]).length = 1 := by rw [h]; rfl
      cases columns with
      | nil => exact hne rfl
      | cons => simp at hlength
    rw [List.foldl_cons, hadd, ih (by simp) hlong, List.append_assoc, List.singleton_append]

theorem foldl_withColumn_nil (names : List String) :
    names.foldl withColumn [] = installed names := by
  induction names using installed.induct with
  | case1 | case2 name => rfl
  | case3 name next rest hstar ih =>
    have hgives : withColumn [name] next = withColumn [] next := by
      rw [withColumn, if_pos hstar]
      rfl
    rw [installed, if_pos hstar, ← ih]
    exact congrArg (fun columns => rest.foldl withColumn columns) hgives
  | case4 name next rest hstar =>
    rw [installed, if_neg hstar]
    exact foldl_withColumn_of_chosen (by simp) hstar (next :: rest)

/-! ## The compiled selection -/

/-- The columns as they stand in the compiled text. -/
def filledColumns (q : Query) : List String :=
  q.columns.map fun s => fill q.standIn (template s)

/-- The word that a selection of distinct rows begins with. -/
def distinctWord (q : Query) : String := if q.distinct then "DISTINCT " else ""

theorem exists_selectText (q : Query) : ∃ rest,
    q.selectText = "SELECT " ++ (q.distinctWord ++ listed q.columns ++ " FROM " ++ rest) := by
  obtain ⟨rest, hrest⟩ : ∃ rest,
      q.selectParts = "SELECT" :: q.selection :: "FROM" :: q.source :: rest := ⟨_, rfl⟩
  have hselection : q.selection = q.distinctWord ++ listed q.columns := by
    unfold selection distinctWord
    split
    · rfl
    · rw [String.empty_append]
  have hselect : ("SELECT " : String) = "SELECT" ++ " " := rfl
  have hfrom : (" FROM " : String) = " " ++ "FROM" ++ " " := rfl
  refine ⟨spaced (q.source :: rest), ?_⟩
  rw [selectText, hrest, spaced, String.intercalate_cons_cons, String.intercalate_cons_cons,
    String.intercalate_cons_cons, hselection, ← spaced, hselect, hfrom]
  simp only [String.append_assoc]

/-- A selection that compiles names its columns, in order, behind its first word. -/
theorem exists_projection {q : Query} {c : Compiled} (ha : q.action = some .select)
    (hc : q.compile = .ok c) : ∃ rest,
      c.query = "SELECT " ++ (q.distinctWord ++ listed q.filledColumns ++ " FROM " ++ rest) := by
  have hq : q.Complete .select := complete_of_compile ha (fun h => nomatch h) hc
  obtain ⟨rest, hrest⟩ := q.exists_selectText
  rw [hq.compile_eq, resolve_eq_ok_iff, statementText, hrest] at hc
  obtain ⟨-, rfl⟩ := hc
  have hword : fill q.standIn (template (q.distinctWord ++ listed q.columns)) =
      q.distinctWord ++ listed q.filledColumns := by
    rw [filledColumns, listed, listed, ← fill_intercalate (by decide)]
    unfold distinctWord
    split
    · exact fill_lead (by decide) _ _
    · rw [String.empty_append, String.empty_append]
  exact ⟨fill q.standIn (template rest), by
    rw [fill_lead (by decide), fill_glue (by decide), hword]⟩

theorem exists_compile_select {q : Query} (ha : q.action = some .select)
    (hsource : q.hasSource = true) (hstores : q.Stores (placeholders q.selectText)) :
    ∃ c, q.compile = .ok c := by
  have hq : q.Complete .select := ⟨ha, hsource, trivial⟩
  exact ⟨_, hq.compile_eq.trans (resolve_eq_ok_iff.2 ⟨hstores, rfl⟩)⟩

/-- The query with another column list. -/
def withColumns (q : Query) (columns : List String) : Query := { q with columns }

end Query

/-! ## Editing -/

namespace Edit

open Query (installed withColumn)

theorem addColumn_name (name : String) (d : Draft) :
    addColumn (.name name) false d =
      (.ok (), { d with query := d.query.withColumns (withColumn d.query.columns name) }) := by
  have hleave : leaveAllColumns d = (.ok (), { d with
      query := d.query.withColumns
        (if d.query.columns = allColumns then [] else d.query.columns) }) := by
    rw [leaveAllColumns, change_apply]
    by_cases hall : d.query.columns = allColumns
    · simp [Query.hasAllColumns, Query.withColumns, hall]
    · simp [Query.hasAllColumns, Query.withColumns, hall]
  rw [addColumn, bind_of_ok hleave]
  rfl

theorem addColumns_names (names : List String) (d : Draft) :
    addColumns (names.map .name) d =
      (.ok (), { d with
        query := d.query.withColumns (names.foldl withColumn d.query.columns) }) := by
  induction names generalizing d with
  | nil => rfl
  | cons name names ih =>
    rw [List.map_cons, addColumns, bind_of_ok (addColumn_name name d), ih]
    rfl

theorem columns_names {names : List String} (h : names ≠ []) (d : Draft) :
    columns (names.map .name) d =
      (.ok (), { d with query := d.query.withColumns (installed names) }) := by
  rw [columns, bind_of_ok (change_apply _ _), bind_of_ok (addColumns_names _ _), change_apply]
  simp [Query.withColumns, Query.foldl_withColumn_nil, Query.installed_ne_nil h]

theorem selectColumns_names {names : List String} (h : names ≠ []) (d : Draft) :
    selectColumns (names.map .name) d = (.ok (), { d with
      query := { d.query with action := some .select }.withColumns (installed names) }) := by
  rw [selectColumns, act, bind_of_ok (change_apply _ _), columns_names h]

end Edit

namespace Call

open Query (installed)

/-- **What replacing the column list installs.** Replacing the column list by names succeeds, and
alone or together with the choice to select it leaves the names in their order, except that stars
before other names give way. Nothing is dropped exactly if there is no star before another name.
The query compiles if it has a source and all values it refers to, and the text of the selection
names the columns that were installed. -/
theorem columns_install {names : List String} (h : names ≠ []) (d : Draft) :
    ((columns (names.map .name)).run d =
      (.ok none, { d with query := d.query.withColumns (installed names) })) ∧
    ((selectColumns (names.map .name)).run d = (.ok none, { d with
      query := { d.query with action := some .select }.withColumns (installed names) })) ∧
    (installed names = names ↔ (names.head? = some "*" → names.length = 1)) ∧
    (∃ n, names = List.replicate n "*" ++ installed names) ∧
    ∀ r e, (columns (names.map .name)).run d = (r, e) ∨
        (selectColumns (names.map .name)).run d = (r, e) → e.query.action = some .select →
      (e.query.hasSource = true → e.query.Stores (placeholders e.query.selectText) →
        ∃ c, e.query.compile = .ok c) ∧
      ∀ c, e.query.compile = .ok c → ∃ rest, c.query = "SELECT " ++ (e.query.distinctWord ++
        listed ((installed names).map fun s => fill e.query.standIn (template s)) ++
          " FROM " ++ rest) := by
  have hcolumns : (columns (names.map .name)).run d =
      (.ok none, { d with query := d.query.withColumns (installed names) }) :=
    bind_of_ok (Edit.columns_names h d)
  have hselect : (selectColumns (names.map .name)).run d = (.ok none, { d with
      query := { d.query with action := some .select }.withColumns (installed names) }) :=
    bind_of_ok (Edit.selectColumns_names h d)
  refine ⟨hcolumns, hselect, Query.installed_eq_self_iff names,
    Query.exists_replicate_append_installed names, fun r e hrun ha => ?_⟩
  have hinstalled : e.query.columns = installed names := by
    rcases hrun with hrun | hrun
    · cases hcolumns.symm.trans hrun
      rfl
    · cases hselect.symm.trans hrun
      rfl
  refine ⟨Query.exists_compile_select ha, fun c hc => ?_⟩
  rw [← hinstalled]
  exact Query.exists_projection ha hc

/-- Names that repeat, with a star behind them, on a query that never chose its columns. -/
theorem columns_install_repeated :
    let names := ["id", "id", "*"]
    let d : Draft := ⟨{ action := some .select, tableName := some "t" }, 0, []⟩
    names ≠ [] ∧ installed names = names ∧
      ((columns (names.map .name)).run d).2.query.compile =
        .ok ⟨"SELECT id, id, * FROM `t`", []⟩ := by
  intro names d
  have hne : names ≠ [] := by decide
  obtain ⟨hrun, -, hself, -⟩ := columns_install hne d
  have hsame : installed names = names := hself.2 fun h => absurd h (by decide)
  refine ⟨hne, hsame, ?_⟩
  rw [hrun, hsame]
  decide +kernel

end Call

namespace Session

/-- A star is given as the first of two columns. -/
def starGiven : List Command :=
  [.create "q" (.acting .select), .call "q" (.table "t" none),
    .call "q" (.columns [.name "*", .name "id"])]

/-- The star is taken for the list of all columns, although it was given, and gives way. -/
theorem starGiven_dropped :
    ((run {} starGiven).2.queries.get? "q").map (·.columns) = some ["id"] ∧
      ((run {} starGiven).2.queries.get? "q").map Query.compile =
        some (.ok ⟨"SELECT id FROM `t`", []⟩) := by
  decide +kernel

end Session
end SqlBuilder
