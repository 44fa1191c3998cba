import SqlBuilder.Proofs.Assignments.Places
import SqlBuilder.Proofs.Merging.Embedding
import SqlBuilder.Proofs.Quoting.Timestamp
import SqlBuilder.Proofs.Rows.Added

/-!
# The same operand in a row and in an assignment

An operand for a column can be given to an insert in a row or in an assignment. The two are written
by different code: the cell of a row is final, while the right side of an assignment holds a
placeholder that is resolved when the query compiles.

For a plain value both come to the same text with the same data (`Edit.rendered_bind`), except that
the text of a timestamp stands in the cell as a literal, where the assignment binds it. Literal SQL
without a placeholder is the same in both (`Call.row_assigns_alike`). A placeholder in it stays in
the cell and is resolved in the assignment (`Session.rawCell_keeps_placeholder`).
-/

namespace SqlBuilder

open Placeholder
open Binder (tokenOf)

/-! ## What a fragment comes to -/

namespace Query

variable {q : Query}

/-- What becomes of a fragment in the compiled text, and the data it contributes. -/
def rendered (q : Query) (s : String) : String × List Value :=
  (fill q.standIn (template s), q.contributed (placeholders s))

theorem contributed_append (q : Query) (ts us : List String) :
    q.contributed (ts ++ us) = q.contributed ts ++ q.contributed us := by
  unfold contributed
  split
  · exact List.filterMap_append
  · rfl

theorem contributed_flatMap (q : Query) (ss : List String) :
    q.contributed (ss.flatMap placeholders) = ss.flatMap fun s => (q.rendered s).2 := by
  induction ss with
  | nil => simp [contributed]
  | cons s ss ih =>
    rw [List.flatMap_cons, List.flatMap_cons, contributed_append, ih]
    rfl

theorem rendered_of_placeholders_eq_nil {s : String} (h : placeholders s = []) :
    q.rendered s = (s, []) := by
  rw [rendered, fill_of_placeholders_eq_nil h, h]
  simp [contributed]

/-- Glued texts are rendered one by one. -/
theorem rendered_glue {sep : String} (h : Glue sep) (q : Query) (a b : String) :
    q.rendered (a ++ sep ++ b) = ((q.rendered a).1 ++ sep ++ (q.rendered b).1,
      (q.rendered a).2 ++ (q.rendered b).2) := by
  rw [rendered, fill_glue h, placeholders_glue h, contributed_append]
  rfl

theorem rendered_glue_right {sep : String} (h : Glue sep) (q : Query) (a : String) :
    q.rendered (a ++ sep) = ((q.rendered a).1 ++ sep, (q.rendered a).2) := by
  rw [rendered, fill_glue_right h, placeholders_glue_right h]
  rfl

/-- A text under a function is rendered on its own. -/
theorem rendered_applied (q : Query) (m text : String) :
    q.rendered (Binder.applied (some m) text) =
      ((q.rendered m).1 ++ "(" ++ (q.rendered text).1 ++ ")",
        (q.rendered m).2 ++ (q.rendered text).2) := by
  rw [Binder.applied, rendered_glue_right (by decide), rendered_glue (by decide)]

/-- With bound parameters the placeholder of a stored value is a mark with the value. -/
theorem rendered_tokenOf (hbound : q.boundParameters = true) {n : Nat} {v : Value}
    (h : q.bindings.get? (tokenOf n) = some v) : q.rendered (tokenOf n) = ("?", [v]) := by
  have hfill : fill q.standIn (template (tokenOf n)) = q.standIn (tokenOf n) := by
    rw [tokenOf, template_token fun _ hc => Binder.isWord_of_mem_nameOf (by decide) hc,
      fill_slot, fill_nil, String.append_empty]
  rw [rendered, hfill, Binder.placeholders_tokenOf]
  simp [standIn, contributed, hbound, h]

/-- What is seen of a value that was bound: a word if it has one, or else a mark and the value in
the data, under the function if there is one. -/
def boundAs (q : Query) (v : Value) (modifier : Option String) : String × List Value :=
  match Binder.inline? v, modifier with
  | some word, _ => (word, [])
  | none, none => ("?", [v.stored])
  | none, some m => ((q.rendered m).1 ++ "(?)", (q.rendered m).2 ++ [v.stored])

/-- Whatever is bound for a value comes to what is seen of it. -/
theorem rendered_bind (hbound : q.boundParameters = true) (v : Value) (modifier : Option String)
    (b : Binder) (hq : q.bindings = (Binder.bind v modifier b).2.bindings) :
    q.rendered (Binder.bind v modifier b).1 = q.boundAs v modifier := by
  cases hword : Binder.inline? v with
  | some word =>
    simp only [Binder.bind_of_inline hword, boundAs, hword]
    exact rendered_of_placeholders_eq_nil (Binder.placeholders_of_inline hword)
  | none =>
    rw [Binder.bind_of_not_inline hword] at hq ⊢
    have htoken : q.rendered (tokenOf (b.lastId + 1)) = ("?", [v.stored]) := by
      refine rendered_tokenOf hbound ?_
      rw [hq, Dict.get?_insert, if_pos rfl]
    cases modifier with
    | none =>
      simp only [boundAs, hword]
      exact htoken
    | some m =>
      simp only [boundAs, hword, rendered_applied, htoken, String.append_assoc]
      rfl

/-- The insert with everything that it assigns rendered. -/
def renderedInsert (q : Query) : Compiled where
  query := spaced [q.insertMode.keyword, "INTO", (q.rendered q.source).1, "SET",
    listed (q.assignments.map fun s => (q.rendered s).1)]
  data := (q.source :: q.assignments).flatMap fun s => (q.rendered s).2

/-- An insert without rows compiles if every value that it refers to is stored, and then it shows
what its assignments are rendered to. -/
theorem compile_assignments {c : Compiled} (haction : q.action = some .insert)
    (hsource : q.hasSource = true) (hrows : q.rows = []) (hne : q.assignments ≠ []) :
    q.compile = .ok c ↔
      q.Stores ((q.source :: q.assignments).flatMap placeholders) ∧ c = q.renderedInsert := by
  have hcomplete : q.Complete .insert := ⟨haction, hsource, hrows, hne⟩
  have hmode : placeholders q.insertMode.keyword = [] := by
    cases q.insertMode <;> exact placeholders_of_not_mem (by decide)
  have hinto : placeholders "INTO" = [] := placeholders_of_not_mem (by decide)
  have hset : placeholders "SET" = [] := placeholders_of_not_mem (by decide)
  have hplaceholders : placeholders (spaced q.insertParts) =
      (q.source :: q.assignments).flatMap placeholders := by
    rw [placeholders_spaced, insertParts]
    simp [hmode, hinto, hset, placeholders_listed]
  have hfill : fill q.standIn (template (spaced q.insertParts)) =
      spaced [q.insertMode.keyword, "INTO", (q.rendered q.source).1, "SET",
        listed (q.assignments.map fun s => (q.rendered s).1)] := by
    rw [spaced, fill_intercalate (by decide), insertParts]
    simp only [List.map_cons, List.map_nil, fill_of_placeholders_eq_nil hmode,
      fill_of_placeholders_eq_nil hinto, fill_of_placeholders_eq_nil hset, listed]
    rw [fill_intercalate (by decide)]
    rfl
  rw [hcomplete.compile_eq, resolve_eq_ok_iff, show q.statementText .insert =
    spaced q.insertParts from rfl, hplaceholders, hfill, contributed_flatMap, renderedInsert]

end Query

/-! ## Operands -/

namespace Operand

/-- The tag puts its value under a function when the value is bound. -/
def wraps : Operand → Bool
  | data v (some _) => (Binder.inline? v).isNone
  | _ => false

/-- The timestamp in a single value. -/
def time? : Operand → Option Timestamp
  | value (.time t) | data (.time t) _ => some t
  | _ => none

end Operand

/-- The right side of an assignment is rendered to the cell of the operand. For a timestamp the cell
is the literal of the text that is bound, and literal SQL stands in the cell as it is, while its
placeholders are resolved on the right side. -/
structure Query.RendersCell (q : Query) (v : Operand) (right : String) : Prop where
  same : (∀ t, v.time? ≠ some t) → (∀ sql, v = .raw sql → placeholders sql = []) →
    q.rendered right = Query.cell (some v)
  time : ∀ t, v.time? = some t → Query.cell (some v) = (Literal.quote t.sqlText, []) ∧
    q.rendered right = ("?", [.text t.sqlText])
  raw : ∀ sql, v = .raw sql → Query.cell (some v) = (sql, []) ∧ right = sql

namespace Edit

/-- With a value bound for it, the text of a value is rendered to its cell, unless the value is a
timestamp: then it is a mark for the text in the cell. -/
theorem rendered_bind {q : Query} (hbound : q.boundParameters = true) (v : Value) (b : Binder)
    (hq : q.bindings = (Binder.bind v none b).2.bindings) :
    q.rendered (Binder.bind v none b).1 =
      match v with
      | .time t => ("?", [.text t.sqlText])
      | v => Query.cellOfValue v := by
  rw [Query.rendered_bind hbound v none b hq]
  cases v with
  | bool t => cases t <;> rfl
  | null | int _ | float _ | text _ | time _ => rfl

/-- A value is bound to what its cell shows. -/
theorem rendersCell_bind {v : Operand} {w : Value}
    (hcell : Query.cell (some v) = Query.cellOfValue w)
    (htime : ∀ t, v.time? = some t ↔ w = .time t) (hraw : ∀ sql, v ≠ .raw sql) {q : Query}
    (hbound : q.boundParameters = true) (b : Binder)
    (hq : q.bindings = (Binder.bind w none b).2.bindings) :
    q.RendersCell v (Binder.bind w none b).1 := by
  have hrendered := rendered_bind hbound w b hq
  refine ⟨fun hnone _ => ?_, fun t ht => ?_, fun sql h => absurd h (hraw sql)⟩
  · rw [hrendered, hcell]
    cases w with
    | time t => exact absurd ((htime t).2 rfl) (hnone t)
    | null | bool _ | int _ | float _ | text _ => rfl
  · obtain rfl := (htime t).1 ht
    rw [hcell, Timestamp.quote_sqlText]
    exact ⟨rfl, hrendered⟩

/-- What an operand is assigned as is rendered to its cell, if its tag has no function to apply. -/
theorem assignedText_rendersCell {v : Operand} (hv : v.isCell = true) (h : v.wraps = false)
    (b : Binder) : ∃ right e, assignedText v none b = (.ok right, e) ∧
      ∀ q : Query, q.boundParameters = true → q.bindings = e.bindings → q.RendersCell v right := by
  cases v with
  | list _ | object _ => cases hv
  | raw sql =>
    refine ⟨sql, b, rfl, fun q _ _ => ⟨fun _ hplain => ?_, fun _ ht => ?_, fun _ h => ?_⟩⟩
    · exact Query.rendered_of_placeholders_eq_nil (hplain sql rfl)
    · cases ht
    · cases h
      exact ⟨rfl, rfl⟩
  | value w =>
    refine ⟨_, _, rfl, fun q hbound hq => ?_⟩
    refine rendersCell_bind (w := w) rfl (fun t => ?_) (fun _ h => by cases h) hbound b hq
    cases w <;> simp [Operand.time?]
  | data w own =>
    -- The function of a tag is not looked at for the words that are never bound.
    have hbind : assignedText (.data w own) none b =
        (.ok (Binder.bind w none b).1, (Binder.bind w none b).2) := by
      cases own with
      | none => rfl
      | some m =>
        cases hword : Binder.inline? w with
        | none => simp [Operand.wraps, hword] at h
        | some word =>
          change (Except.ok (Binder.bind w (some m) b).1, (Binder.bind w (some m) b).2) = _
          rw [Binder.bind_of_inline hword, Binder.bind_of_inline hword]
    refine ⟨_, _, hbind, fun q hbound hq => ?_⟩
    refine rendersCell_bind (w := w) rfl (fun t => ?_) (fun _ h => by cases h) hbound b hq
    cases w <;> simp [Operand.time?]

/-- The text goes to one place of the list, and nothing else changes. -/
theorem exists_putAssignment (column clause : String) (q : Query) : ∃ before after places,
    putAssignment column clause q =
      { q with assignments := before ++ clause :: after, assignedAt := places } := by
  unfold putAssignment
  split
  · rename_i i hi
    have hlt : i < q.assignments.length := by
      simpa using (Option.filter_eq_some_iff.1 hi).2
    refine ⟨q.assignments.take i, q.assignments.drop (i + 1), q.assignedAt, ?_⟩
    rw [List.set_eq_take_append_cons_drop, if_pos hlt]
  · exact ⟨q.assignments, [], _, rfl⟩

theorem set_of_ok {v : Operand} {modifier : Option String} {d : Draft} {text : String}
    {b : Binder} (h : assignedText v modifier d.binder = (.ok text, b)) (column : String) :
    set column v modifier d = (.ok (), { d.withBinder b with
      query := putAssignment column (column ++ " = " ++ text) (d.withBinder b).query }) := by
  rw [set, write_bind, h]
  rfl

end Edit

namespace Call

/-- **A row assigns what an assignment assigns.** Take an insert with a source, bound parameters and
no chosen columns, and an operand that both accept and whose tag has no function to apply. As a row
the operand is the only cell of a last tuple. As an assignment it is the right side of one text in
the list, which the statement without rows shows rendered if all values it refers to are stored. The
cell and the rendered right side are the same text with the same data, except that a timestamp is
bound in the assignment only and that only there the placeholders in literal SQL are resolved. -/
theorem row_assigns_alike {d : Draft} (haction : d.query.action = some .insert)
    (hsource : d.query.hasSource = true) (hcolumns : d.query.columns = allColumns)
    (hbound : d.query.boundParameters = true) (column : String) {v : Operand}
    (hv : v.isCell = true) (hwraps : v.wraps = false) :
    ∃ (row assigned : Draft) (right : String) (before after : List String),
      (addRow ⟨[(column, v)]⟩).run d = (.ok none, row) ∧
      (set column v none).run d = (.ok none, assigned) ∧
      row.query.columns = [column] ∧
      row.query.compile = .ok
        { query := d.query.insertMode.keyword ++ " INTO " ++ d.query.source ++ " (" ++
            row.query.columnList ++ ") VALUES " ++ listed (d.query.rows.map row.query.tuple ++
              ["(" ++ (Query.cell (some v)).1 ++ ")"])
          data := d.query.rows.flatMap (Query.rowData [column]) ++ (Query.cell (some v)).2 } ∧
      assigned.query.assignments = before ++ (column ++ " = " ++ right) :: after ∧
      (d.query.rows = [] → ∀ c, assigned.query.compile = .ok c ↔
        assigned.query.Stores
            ((assigned.query.source :: assigned.query.assignments).flatMap placeholders) ∧
          c = assigned.query.renderedInsert) ∧
      assigned.query.rendered (column ++ " = " ++ right) =
        ((assigned.query.rendered column).1 ++ " = " ++ (assigned.query.rendered right).1,
          (assigned.query.rendered column).2 ++ (assigned.query.rendered right).2) ∧
      assigned.query.RendersCell v right := by
  let f : Fields := ⟨[(column, v)]⟩
  have hbad : Edit.badCell? f.entries = none :=
    (Edit.badCell?_eq_none_iff _).2 (List.forall_mem_singleton.2 hv)
  have hrow : (addRow f).run d = (.ok none, { d with query := d.query.withRow f }) :=
    bind_of_ok (Edit.addRow_accepted hbad d)
  have hone : (d.query.withRow f).columns = [column] := by
    change Query.columnsWith d.query.columns f = [column]
    rw [hcolumns]
    rfl
  have hcell : Query.cells [column] f = [Query.cell (some v)] := by
    simp [Query.cells, f, Fields.get?, Entries.get?]
  have hcompile := Query.compile_of_last_row (q := d.query) (r := d.query.withRow f) [column] f
    (by rw [← hone]; rfl) haction hsource
  have hdata : Query.rowData [column] f = (Query.cell (some v)).2 := by
    rw [← Query.flatMap_cells, hcell, List.flatMap_singleton]
  have htuple : Query.rowText [Query.cell (some v)] = "(" ++ (Query.cell (some v)).1 ++ ")" := by
    simp [Query.rowText, listed]
  rw [hcell, hdata, htuple] at hcompile
  obtain ⟨right, b, htext, hrenders⟩ := Edit.assignedText_rendersCell hv hwraps d.binder
  obtain ⟨before, after, places, hput⟩ := Edit.exists_putAssignment column
    (column ++ " = " ++ right) (d.withBinder b).query
  have hset := Edit.set_of_ok htext column
  rw [hput] at hset
  exact ⟨_, _, right, before, after, hrow, bind_of_ok hset, hone, hcompile, rfl,
    fun hrows c => Query.compile_assignments haction hsource hrows (by simp),
    Query.rendered_glue (by decide) _ column right, hrenders _ hbound rfl⟩

/-- An insert that assigns to another column already. -/
def assigning : Draft :=
  ⟨{ action := some .insert, tableName := some "t", assignments := ["b = 1"] }, 0, []⟩

theorem row_assigns_alike_assigning :
    let v : Operand := .data (.text "x") none
    assigning.query.action = some .insert ∧ assigning.query.hasSource = true ∧
      assigning.query.columns = allColumns ∧ assigning.query.boundParameters = true ∧
      v.isCell = true ∧ v.wraps = false ∧
      ∃ row assigned right, (addRow ⟨[("a", v)]⟩).run assigning = (.ok none, row) ∧
        (set "a" v none).run assigning = (.ok none, assigned) ∧
        row.query.compile = .ok ⟨"INSERT INTO `t` ( a ) VALUES (?)", [.text "x"]⟩ ∧
        assigned.query.compile = .ok ⟨"INSERT INTO `t` SET b = 1, a = ?", [.text "x"]⟩ ∧
        assigned.query.rendered right = ("?", [.text "x"]) := by
  intro v
  have hsource : assigning.query.hasSource = true := by decide
  obtain ⟨row, assigned, right, -, -, hrow, hset, -, -, -, -, -, hrenders⟩ :=
    row_assigns_alike (d := assigning) rfl hsource rfl rfl "a" (v := v) rfl rfl
  obtain rfl : ((addRow ⟨[("a", v)]⟩).run assigning).2 = row := by rw [hrow]
  obtain rfl : ((set "a" v none).run assigning).2 = assigned := by rw [hset]
  exact ⟨rfl, hsource, rfl, rfl, rfl, rfl, _, _, right, hrow, hset, by decide +kernel,
    by decide +kernel, hrenders.same (by simp [v, Operand.time?]) (by simp [v])⟩

end Call

namespace Session

/-- An operand for a column, in a row. A value is stored under a name before. -/
def givenInRow (v : Operand) : List Command :=
  [.create "q" (.inserting .insert), .call "q" (.table "t" none),
    .call "q" (.insertBinding "x" (.int 5)), .call "q" (.addRow ⟨[("a", v)]⟩)]

/-- The same operand for the same column, in an assignment. -/
def givenInAssignment (v : Operand) : List Command :=
  [.create "q" (.inserting .insert), .call "q" (.table "t" none),
    .call "q" (.insertBinding "x" (.int 5)), .call "q" (.set "a" v none)]

/-- A placeholder in literal SQL stays in the cell, although its value is stored, and the function
of a tag is not applied there. -/
theorem rawCell_keeps_placeholder :
    ((run {} (givenInRow (.raw "{{x}}"))).2.queries.get? "q").map Query.compile =
        some (.ok ⟨"INSERT INTO `t` ( a ) VALUES ({{x}})", []⟩) ∧
      ((run {} (givenInAssignment (.raw "{{x}}"))).2.queries.get? "q").map Query.compile =
        some (.ok ⟨"INSERT INTO `t` SET a = ?", [.int 5]⟩) ∧
      ((run {} (givenInRow (.data (.text "x") (some "UPPER")))).2.queries.get? "q").map
          Query.compile = some (.ok ⟨"INSERT INTO `t` ( a ) VALUES (?)", [.text "x"]⟩) ∧
      ((run {} (givenInAssignment (.data (.text "x") (some "UPPER")))).2.queries.get? "q").map
          Query.compile = some (.ok ⟨"INSERT INTO `t` SET a = UPPER(?)", [.text "x"]⟩) := by
  decide +kernel

end Session
end SqlBuilder
