import SqlBuilder.Proofs.Columns.Installed
import SqlBuilder.Proofs.Compile.Remaining
import SqlBuilder.Proofs.Conditions.Guard
import SqlBuilder.Proofs.Rows.Expression

/-!
# Compiled selections

A selection that compiles is its text rendered (`Query.compile_select`), and what a text is rendered
to can be read off its parts where no placeholder runs from one into the next (`Ended`, `Begun`,
`Query.rendered_apart`). So the columns and the conditions of a selection are seen in what it
compiles to, each with its data: the columns in front, in their order (`Query.select_rendered`), and
every condition between two texts (`Query.exists_selectText_condition`).

A selection goes on to compile when more is stored and fragments come in whose values are stored
(`Query.exists_compile_of_fragments`).
-/

namespace SqlBuilder

open Placeholder

/-! ## Ends and beginnings -/

namespace Placeholder

/-- No placeholder runs over the end of the text. -/
def Ended (front : String) : Prop :=
  ∀ b, template (front ++ b) = template front ++ template b

/-- No placeholder runs over the beginning of the text. -/
def Begun (back : String) : Prop :=
  ∀ a, template (a ++ back) = template a ++ template back

theorem template_empty : template "" = [] := rfl

theorem ended_empty : Ended "" := fun b => by rw [String.empty_append, template_empty]; rfl

theorem begun_empty : Begun "" := fun a => by
  rw [String.append_empty, template_empty, List.append_nil]

theorem Ended.append {front front' : String} (h : Ended front) (h' : Ended front') :
    Ended (front ++ front') := by
  intro b
  rw [String.append_assoc, h, h', h, List.append_assoc]

theorem Begun.append {back back' : String} (h : Begun back) (h' : Begun back') :
    Begun (back ++ back') := by
  intro a
  rw [← String.append_assoc, h', h, h', List.append_assoc]

theorem ended_append_lead (a : String) {s : String} (h : Lead s) : Ended (a ++ s) := by
  obtain ⟨mid, d, hd, rfl, -⟩ := h.exists_eq
  intro b
  have hend := template_append hd (a ++ mid) ""
  rw [String.append_empty, template_empty] at hend
  rw [← String.append_assoc, template_append hd, hend, List.append_assoc]
  rfl

theorem begun_glue_append {s : String} (h : Glue s) (b : String) : Begun (s ++ b) := by
  obtain ⟨c, rest, hc, rfl, -⟩ := h.exists_eq
  intro a
  have hstart := template_append hc "" (rest ++ b)
  rw [String.empty_append, template_empty] at hstart
  rw [String.append_assoc, hstart, ← String.append_assoc, template_append hc]
  rfl

/-- A part of a list stands between texts that end and begin where no placeholder does. -/
theorem exists_intercalate_eq {sep : String} (h : Glue sep) (as : List String) (s : String)
    (bs : List String) : ∃ front back, Ended front ∧ Begun back ∧
      sep.intercalate (as ++ s :: bs) = front ++ s ++ back := by
  obtain ⟨back, hback, hrest⟩ : ∃ back, Begun back ∧ sep.intercalate (s :: bs) = s ++ back := by
    cases bs with
    | nil => exact ⟨"", begun_empty, by rw [String.intercalate_singleton, String.append_empty]⟩
    | cons next bs =>
      exact ⟨sep ++ sep.intercalate (next :: bs), begun_glue_append h _, by
        rw [String.intercalate_cons_cons, String.append_assoc]⟩
  by_cases has : as = []
  · exact ⟨"", back, ended_empty, hback, by rw [has, List.nil_append, hrest, String.empty_append]⟩
  · refine ⟨sep.intercalate as ++ sep, back, ended_append_lead _ h.2, hback, ?_⟩
    rw [String.intercalate_append_of_ne_nil has (List.cons_ne_nil _ _), hrest]
    simp only [String.append_assoc]

end Placeholder

namespace Query

variable {q r : Query} {c : Compiled}

/-! ## Selections that compile -/

theorem compile_select (ha : q.action = some .select) (hsource : q.hasSource = true) :
    q.compile = .ok c ↔
      q.Stores (placeholders q.selectText) ∧
        c = ⟨(q.rendered q.selectText).1, (q.rendered q.selectText).2⟩ := by
  have hq : q.Complete .select := ⟨ha, hsource, trivial⟩
  rw [hq.compile_eq, resolve_eq_ok_iff]
  rfl

theorem exists_compile_iff (ha : q.action = some .select) (hsource : q.hasSource = true) :
    (∃ c, q.compile = .ok c) ↔ q.Stores (placeholders q.selectText) :=
  ⟨fun ⟨_, hc⟩ => ((compile_select ha hsource).1 hc).1, exists_compile_select ha hsource⟩

/-- If a selection compiles, so does one that stores all that it stores, and all that its fragments
besides refer to. -/
theorem exists_compile_of_fragments (hq : q.action = some .select) (hc : q.compile = .ok c)
    (hr : r.action = some .select) (hsource : r.hasSource = true)
    (hle : ∀ t, (q.bindings.get? t).isSome → (r.bindings.get? t).isSome)
    (hmore : ∀ s ∈ r.fragments .select, s ∈ q.fragments .select ∨ r.Stores (placeholders s)) :
    ∃ c, r.compile = .ok c := by
  have hcomplete : q.Complete .select := complete_of_compile hq (fun h => nomatch h) hc
  have hbefore := hcomplete.stores_of_compile hc
  rw [placeholders_statementText] at hbefore
  refine exists_compile_select hr hsource ?_
  change r.Stores (placeholders (r.statementText .select))
  rw [placeholders_statementText]
  intro t ht
  obtain ⟨s, hs, ht⟩ := List.mem_flatMap.1 ht
  rcases hmore s hs with hold | hnew
  · exact hle t (hbefore t (List.mem_flatMap.2 ⟨s, hold, ht⟩))
  · exact hnew t ht

/-! ## Columns -/

/-- The fragments of a selection behind its columns. -/
def behindColumns (q : Query) : List String :=
  q.sourceFragments ++ q.joins ++ q.conditions ++ q.groupBy ++ q.orderBy ++ q.limit.toList

theorem fragments_select (q : Query) : q.fragments .select = q.columns ++ q.behindColumns := by
  simp only [fragments, behindColumns, List.append_assoc]

/-- A selection that compiles shows what its columns are rendered to, in order, and hands out first
what they contribute. -/
theorem select_rendered {c : Compiled} (ha : q.action = some .select) (hc : q.compile = .ok c) :
    (∃ rest, c.query = "SELECT " ++ (q.distinctWord ++
      listed (q.columns.map fun s => (q.rendered s).1) ++ " FROM " ++ rest)) ∧
    c.data = (q.columns.flatMap fun s => (q.rendered s).2) ++
      q.behindColumns.flatMap fun s => (q.rendered s).2 := by
  refine ⟨exists_projection ha hc, ?_⟩
  have hq : q.Complete .select := complete_of_compile ha (fun h => nomatch h) hc
  rw [hq.compile_eq, resolve_eq_ok_iff] at hc
  obtain ⟨-, rfl⟩ := hc
  rw [placeholders_statementText, contributed_flatMap, fragments_select, List.flatMap_append]

/-! ## Conditions -/

/-- A condition of a selection stands apart in its text. -/
theorem exists_selectText_condition {s : String} (h : s ∈ q.conditions) :
    ∃ front back, Ended front ∧ Begun back ∧ q.selectText = front ++ s ++ back := by
  obtain ⟨as, bs, hconditions⟩ := List.append_of_mem h
  obtain ⟨front, back, hfront, hback, htext⟩ :=
    exists_intercalate_eq (glue_connective (q.connective.getD .and)) as s bs
  obtain ⟨front', back', hfront', hback', hselect⟩ := exists_intercalate_eq
    (show Glue " " by decide) (["SELECT", q.selection, "FROM", q.source] ++ q.joins ++ ["WHERE"])
    q.conditionText (listClause "GROUP BY" q.groupBy ++ listClause "ORDER BY" q.orderBy ++
      q.limit.toList)
  refine ⟨front' ++ front, back ++ back', hfront'.append hfront, hback.append hback', ?_⟩
  have hne : q.conditions ≠ [] := List.ne_nil_of_mem h
  have hparts : q.selectParts = (["SELECT", q.selection, "FROM", q.source] ++ q.joins ++
      ["WHERE"]) ++ q.conditionText :: (listClause "GROUP BY" q.groupBy ++
        listClause "ORDER BY" q.orderBy ++ q.limit.toList) := by
    simp [selectParts, conditionClause, hne]
  have hcondition : q.conditionText = front ++ s ++ back := by
    rw [conditionText, hconditions, htext]
  rw [selectText, spaced, hparts, hselect, hcondition]
  simp only [String.append_assoc]

/-- A text is rendered part by part where parts end and begin. -/
theorem rendered_apart {front back : String} (hfront : Ended front) (hback : Begun back)
    (s : String) : q.rendered (front ++ s ++ back) =
      ((q.rendered front).1 ++ (q.rendered s).1 ++ (q.rendered back).1,
        (q.rendered front).2 ++ (q.rendered s).2 ++ (q.rendered back).2) := by
  have htemplate : template (front ++ s ++ back) =
      template front ++ template s ++ template back := by
    rw [hback, hfront]
  simp only [rendered, placeholders, htemplate, fill_append, tokens_append, contributed_append]

/-- What a text refers to, its parts do where they end and begin. -/
theorem stores_apart {front back : String} (hfront : Ended front) (hback : Begun back)
    {s : String} : q.Stores (placeholders (front ++ s ++ back)) ↔
      q.Stores (placeholders front) ∧ q.Stores (placeholders s) ∧ q.Stores (placeholders back) := by
  have htokens : placeholders (front ++ s ++ back) =
      placeholders front ++ (placeholders s ++ placeholders back) := by
    simp only [placeholders, hback (front ++ s), hfront s, tokens_append, List.append_assoc]
  rw [htokens]
  simp only [Stores, List.forall_mem_append]

end Query
end SqlBuilder
