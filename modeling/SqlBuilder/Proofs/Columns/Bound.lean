import SqlBuilder.Proofs.Compile.Selection
import SqlBuilder.Proofs.Rejection.Column
import SqlBuilder.Proofs.Substitution.Compile

/-!
# Columns that are values

A column can be a value, bare or with an SQL function to apply. Null and truth values are words in
the text, and so are never bare columns. Of every other value the text gets a mark, and the data get
the value at the place of the column: behind what the earlier columns contribute
(`Query.select_rendered`), and behind what the name of the function does (`Query.rendered_bind`).
The text would be the same for any other such value (`Draft.text_withValue`).

A bare text is the exception. It is taken for the name of a column, and written as it is
(`Call.bare_text_written`). All other values that are accepted are bound
(`Call.values_bound_in_columns`).
-/

namespace SqlBuilder

open Placeholder
open Binder (tokenOf inline?)

/-! ## What is bound for a column -/

/-- The value that a column stands for, with the function to be applied to it. -/
def Column.given? : Column Query → Option (Value × Option String)
  | value v => some (v, none)
  | data v modifier => some (v, modifier)
  | name _ | query _ => none

/-- A value that is accepted and not taken for a name is bound. -/
theorem Column.text_of_given {c : Column Query} {v : Value} {modifier : Option String}
    (hgiven : c.given? = some (v, modifier)) (hc : c.refusal? = none) (hname : c.isName = false) :
    c.text = (Binder.bind v modifier : Render String) := by
  cases c with
  | name s => cases hname
  | query q => cases hgiven
  | data w m =>
    cases hgiven
    rfl
  | value w =>
    cases hgiven
    cases v with
    | null | bool _ => cases hc
    | text s => cases hname
    | int _ | float _ | time _ => rfl

/-- The draft with a value bound for one more column. -/
def Draft.withValue (d : Draft) (v : Value) (modifier : Option String) : Draft :=
  let e := d.withBinder (Binder.bind v modifier d.binder).2
  { e with
    query := e.query.withColumns
      (d.query.withoutAll.columns ++ [(Binder.bind v modifier d.binder).1]) }

theorem Draft.binder_withoutAll (d : Draft) :
    Draft.binder { d with query := d.query.withoutAll } = d.binder := by
  unfold Query.withoutAll
  split <;> rfl

theorem Edit.addColumn_given {c : Column Query} {v : Value} {modifier : Option String}
    (hgiven : c.given? = some (v, modifier)) (hc : c.refusal? = none) (hname : c.isName = false)
    (unique : Bool) (d : Draft) : addColumn c unique d = (.ok (), d.withValue v modifier) := by
  have hleave : leaveAllColumns d = (.ok (), { d with query := d.query.withoutAll }) := rfl
  have hbind : (Binder.bind v modifier : Render String) d.binder =
      (.ok (Binder.bind v modifier d.binder).1, (Binder.bind v modifier d.binder).2) := rfl
  rw [addColumn, bind_of_ok hleave, write_bind, Column.text_of_given hgiven hc hname,
    Draft.binder_withoutAll, hbind]
  change change _ _ = _
  rw [change_apply, hname, Draft.withValue, Query.withoutAll]
  by_cases hall : d.query.hasAllColumns
  · simp [hall, Draft.withBinder, Query.withColumns]
  · simp [hall, Draft.withBinder, Query.withColumns]

/-! ## Compiling with one more value -/

theorem Binder.isSome_get?_bind (v : Value) (modifier : Option String) (b : Binder) {t : String}
    (h : (b.bindings.get? t).isSome) :
    ((Binder.bind v modifier b).2.bindings.get? t).isSome := by
  cases hword : inline? v with
  | some word =>
    rw [bind_of_inline hword]
    exact h
  | none =>
    rw [bind_of_not_inline hword]
    exact Dict.isSome_get?_insert h

/-- The text for a value refers to what the function does, and to what was bound. -/
theorem Binder.stores_bind (v : Value) (modifier : Option String) (b : Binder) {q : Query}
    (hq : q.bindings = (Binder.bind v modifier b).2.bindings)
    (hmodifier : ∀ m ∈ modifier, q.Stores (placeholders m)) :
    q.Stores (placeholders (Binder.bind v modifier b).1) := by
  cases hword : inline? v with
  | some word =>
    rw [bind_of_inline hword, placeholders_of_inline hword]
    exact List.forall_mem_nil _
  | none =>
    rw [bind_of_not_inline hword] at hq ⊢
    have htoken : q.Stores (placeholders (tokenOf (b.lastId + 1))) := by
      intro t ht
      rw [placeholders_tokenOf, List.mem_singleton] at ht
      rw [ht, hq, Dict.get?_insert, if_pos rfl]
      rfl
    change q.Stores (placeholders (applied modifier (tokenOf (b.lastId + 1))))
    rw [placeholders_applied, Query.Stores, List.forall_mem_append, List.forall_mem_flatMap]
    exact ⟨fun m hm => hmodifier m (Option.mem_toList.1 hm), htoken⟩

namespace Draft

variable {d : Draft} {v : Value} {modifier : Option String}

theorem compile_withValue (ha : d.query.action = some .select)
    (hd : ∃ r, d.query.compile = .ok r)
    (hmodifier : ∀ m ∈ modifier, (d.withValue v modifier).query.Stores (placeholders m)) :
    ∃ r, (d.withValue v modifier).query.compile = .ok r := by
  obtain ⟨r, hr⟩ := hd
  have hq : d.query.Complete .select := Query.complete_of_compile ha (fun h => nomatch h) hr
  have hleft {s : String} (hs : s ∈ d.query.withoutAll.columns) : s ∈ d.query.columns := by
    unfold Query.withoutAll at hs
    split at hs
    · cases hs
    · exact hs
  refine Query.exists_compile_of_fragments (r := (d.withValue v modifier).query) ha hr ha hq.source
    (fun t => Binder.isSome_get?_bind v modifier d.binder) fun s hs => ?_
  rw [Query.fragments_select] at hs ⊢
  rcases List.mem_append.1 hs with hs | hs
  · rcases List.mem_append.1 hs with hs | hs
    · exact .inl (List.mem_append_left _ (hleft hs))
    · rw [List.mem_singleton.1 hs]
      exact .inr (Binder.stores_bind v modifier d.binder rfl hmodifier)
  · exact .inl (List.mem_append_right _ hs)

end Draft

/-! ## Another value -/

/-- One value is replaced by one other. -/
def Substitution.single {v w : Value} (hv : inline? v = none) (hw : inline? w = none) :
    Substitution where
  rel a b := a = v ∧ b = w
  bound := by
    rintro _ _ ⟨rfl, rfl⟩
    exact ⟨hv, hw⟩

namespace Draft

variable {v w : Value}

/-- Which of two values was bound can be told from the bindings only. -/
theorem withValue_alike (hv : inline? v = none) (hw : inline? w = none) (d : Draft)
    (modifier : Option String) : (d.withValue v modifier).query.Alike (.single hv hw)
      (d.withValue w modifier).query := by
  simp only [withValue, Binder.bind_of_not_inline hv, Binder.bind_of_not_inline hw]
  exact ⟨rfl, (Dict.Alike.refl .same _).insert _ (.replaced ⟨rfl, rfl⟩),
    (Query.Alike.refl d.query).rows⟩

theorem text_withValue (hv : inline? v = none) (hw : inline? w = none) {d : Draft}
    (hbound : d.query.boundParameters = true) (modifier : Option String) :
    (d.withValue v modifier).query.compile.map (·.query) =
      (d.withValue w modifier).query.compile.map (·.query) := by
  have hmatched := Query.compile_alike (withValue_alike hv hw d modifier)
  generalize (d.withValue v modifier).query.compile = r at hmatched ⊢
  generalize (d.withValue w modifier).query.compile = r' at hmatched ⊢
  cases hmatched with
  | error f => rfl
  | ok halike => exact congrArg Except.ok (halike.query hbound)

end Draft

/-! ## Calls -/

namespace Call

/-- **Values are bound in columns.** Take a query with bound parameters and a column that is a
value, bare or under a function, that is accepted and is not a bare text. Adding it succeeds, and
its text goes behind the columns that were chosen. That text comes to a mark for the value under the
function, or to the word of the value.

A selection that compiled before compiles with the column, if what the function refers to is stored.
Its text then shows the columns rendered, this one last, and its data are those of the earlier
columns, those of this one with the value, and those of the clauses behind. For another value with a
mark under the same function the text would be the same, and so would be a failure. -/
theorem values_bound_in_columns {d : Draft} (hbound : d.query.boundParameters = true)
    {c : Column Query} {v : Value} {modifier : Option String}
    (hgiven : c.given? = some (v, modifier)) (hc : c.refusal? = none) (hname : c.isName = false)
    (unique : Bool) :
    ∃ e text, (addColumn c unique).run d = (.ok none, e) ∧
      e.query.columns = d.query.withoutAll.columns ++ [text] ∧
      e.query.rendered text = e.query.boundAs v modifier ∧
      (d.query.action = some .select →
        ((∃ r, d.query.compile = .ok r) → (∀ m ∈ modifier, e.query.Stores (placeholders m)) →
          ∃ r, e.query.compile = .ok r) ∧
        ∀ r, e.query.compile = .ok r →
          (∃ rest, r.query = "SELECT " ++ (d.query.distinctWord ++
            listed ((d.query.withoutAll.columns.map fun s => (e.query.rendered s).1) ++
              [(e.query.boundAs v modifier).1]) ++ " FROM " ++ rest)) ∧
          r.data = (d.query.withoutAll.columns.flatMap fun s => (e.query.rendered s).2) ++
            ((e.query.boundAs v modifier).2 ++
              d.query.behindColumns.flatMap fun s => (e.query.rendered s).2)) ∧
      ∀ (c' : Column Query) (w : Value), c'.given? = some (w, modifier) → c'.refusal? = none →
        c'.isName = false → inline? v = none → inline? w = none →
          ∃ f, (addColumn c' unique).run d = (.ok none, f) ∧
            f.query.compile.map (·.query) = e.query.compile.map (·.query) := by
  have hrendered : (d.withValue v modifier).query.rendered (Binder.bind v modifier d.binder).1 =
      (d.withValue v modifier).query.boundAs v modifier :=
    Query.rendered_bind (q := (d.withValue v modifier).query) hbound v modifier d.binder rfl
  refine ⟨d.withValue v modifier, (Binder.bind v modifier d.binder).1,
    bind_of_ok (Edit.addColumn_given hgiven hc hname unique d), rfl, hrendered,
    fun ha => ⟨Draft.compile_withValue ha, fun r hr => ?_⟩,
    fun c' w hgiven' hc' hname' hv hw => ?_⟩
  · have haction : (d.withValue v modifier).query.action = some .select := ha
    obtain ⟨hquery, hdata⟩ := Query.select_rendered haction hr
    have hcolumns : (d.withValue v modifier).query.columns =
        d.query.withoutAll.columns ++ [(Binder.bind v modifier d.binder).1] := rfl
    rw [hcolumns, List.map_append, List.map_singleton, hrendered] at hquery
    rw [hcolumns, List.flatMap_append, List.flatMap_singleton, hrendered,
      List.append_assoc] at hdata
    exact ⟨hquery, hdata⟩
  · exact ⟨d.withValue w modifier, bind_of_ok (Edit.addColumn_given hgiven' hc' hname' unique d),
      Draft.text_withValue hw hv hbound modifier⟩

/-- A selection with a condition on a stored value, of which one column is chosen. -/
def countedItems : Draft :=
  ((insertBinding "kind" (.text "b")).run
    ⟨{ action := some .select, tableName := some "items", columns := ["id"],
       conditions := ["kind = {{kind}}"] }, 0, []⟩).2

theorem values_bound_in_columns_countedItems :
    let c : Column Query := .data (.text "'; --") (some "UPPER")
    countedItems.query.boundParameters = true ∧ c.given? = some (.text "'; --", some "UPPER") ∧
      c.refusal? = none ∧ c.isName = false ∧
      ∃ e, (addColumn c true).run countedItems = (.ok none, e) ∧
        e.query.compile = .ok ⟨"SELECT id, UPPER(?) FROM `items` WHERE kind = ?",
          [.text "'; --", .text "b"]⟩ ∧
        ∃ f, (addColumn (.data (.int 7) (some "UPPER")) true).run countedItems = (.ok none, f) ∧
          f.query.compile.map (·.query) =
            .ok "SELECT id, UPPER(?) FROM `items` WHERE kind = ?" := by
  intro c
  obtain ⟨e, -, hrun, -, -, -, hother⟩ :=
    values_bound_in_columns (d := countedItems) rfl (c := c) rfl rfl rfl true
  obtain ⟨f, hrun', htext⟩ := hother (.data (.int 7) (some "UPPER")) (.int 7) rfl rfl rfl rfl rfl
  obtain rfl : ((addColumn c true).run countedItems).2 = e := by rw [hrun]
  have hcompile : ((addColumn c true).run countedItems).2.query.compile = .ok
      ⟨"SELECT id, UPPER(?) FROM `items` WHERE kind = ?", [.text "'; --", .text "b"]⟩ := by
    decide +kernel
  refine ⟨rfl, rfl, rfl, rfl, _, hrun, hcompile, f, hrun', htext.trans ?_⟩
  rw [hcompile]
  rfl

/-- A bare text is written as it is, where the same text with a tag, or any other bare value, is
bound. -/
theorem bare_text_written :
    let d : Draft := ⟨{ action := some .select, tableName := some "t" }, 0, []⟩
    ((addColumn (.value (.text "id")) false).run d).2.query.compile =
        .ok ⟨"SELECT id FROM `t`", []⟩ ∧
      ((addColumn (.data (.text "id") none) false).run d).2.query.compile =
        .ok ⟨"SELECT ? FROM `t`", [.text "id"]⟩ ∧
      ((addColumn (.value (.int 5)) false).run d).2.query.compile =
        .ok ⟨"SELECT ? FROM `t`", [.int 5]⟩ := by
  decide +kernel

end Call
end SqlBuilder
