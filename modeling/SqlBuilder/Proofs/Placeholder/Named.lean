import SqlBuilder.Proofs.Compile.Selection
import SqlBuilder.Proofs.Conditions.OneField

/-!
# Values under a name

A value can be stored under a name, to be used as a placeholder in SQL of the caller's. The store
takes every name (`Bindings.key_eq_named`). The reader of placeholders takes only those of word
characters (`Placeholder.placeholders_named`), and nothing asks whether the two agree.

So a condition on a named value comes to a mark and the value if the name has word characters only,
in whatever selection it stands (`Call.named_value_used`). Any other name is left in the compiled
text, braces and all (`Call.named_value_left`).
-/

namespace SqlBuilder

open Placeholder

/-! ## Names -/

namespace Placeholder

/-- What is in a placeholder is in the text. -/
theorem mem_of_mem_placeholders {sql t : String} (h : t ∈ placeholders sql) {c : Char}
    (hc : c ∈ t.toList) : c ∈ sql.toList := by
  obtain ⟨p, hp, ht⟩ := List.mem_filterMap.1 h
  cases p with
  | char d => cases ht
  | slot name =>
    cases ht
    rw [String.toList_ofList] at hc
    have htext : (template sql).flatMap Piece.text = sql.toList := text_pieces 0 sql.toList
    rw [← htext]
    exact List.mem_flatMap.2 ⟨_, hp, hc⟩

/-- A name in braces. -/
def named (name : String) : String := "\x7b\x7b" ++ name ++ "\x7d\x7d"

theorem named_eq_token (name : String) : named name = .ofList (token name.toList) := by
  apply String.toList_inj.1
  simp [named, token, openBraces, closeBraces]

/-- A name without a brace is a placeholder in braces if it has word characters only. -/
theorem placeholders_named {name : String} (hname : '{' ∉ name.toList ∧ '}' ∉ name.toList) :
    placeholders (named name) = if name.toList.all Text.isWord then [named name] else [] := by
  split
  · rename_i hword
    rw [named_eq_token, placeholders_token (List.all_eq_true.1 hword)]
  · rename_i hword
    -- Some character of the name breaks placeholders, and on neither side of it are all the braces.
    obtain ⟨c, hc, hbreak⟩ : ∃ c ∈ name.toList, Text.isWord c = false := by simpa using hword
    obtain ⟨front, back, hsplit⟩ := List.append_of_mem hc
    have hne : c ≠ '{' ∧ c ≠ '}' :=
      ⟨fun heq => hname.1 (heq ▸ hc), fun heq => hname.2 (heq ▸ hc)⟩
    have hcut : named name = String.ofList (openBraces ++ front) ++ String.singleton c ++
        String.ofList (back ++ closeBraces) := by
      rw [named_eq_token, token, hsplit]
      apply String.toList_inj.1
      simp
    have hfront : placeholders (.ofList (openBraces ++ front)) = [] := by
      refine List.eq_nil_iff_forall_not_mem.2 fun t ht => ?_
      have hmem : '}' ∈ t.toList := by
        obtain ⟨p, -, hp⟩ := List.mem_filterMap.1 ht
        cases p with
        | char d => cases hp
        | slot name =>
          cases hp
          simp [token, closeBraces]
      have hfront : '}' ∈ openBraces ++ front := by simpa using mem_of_mem_placeholders ht hmem
      rcases List.mem_append.1 hfront with h | h
      · exact absurd h (by decide)
      · exact hname.2 (hsplit ▸ List.mem_append_left _ h)
    have hback : placeholders (.ofList (back ++ closeBraces)) = [] := by
      refine placeholders_of_not_mem fun hmem => ?_
      rw [String.toList_ofList] at hmem
      rcases List.mem_append.1 hmem with h | h
      · exact hname.1 (hsplit ▸ List.mem_append_right _ (List.mem_cons_of_mem _ h))
      · exact absurd h (by decide)
    rw [hcut, separates_singleton ⟨hbreak, hne⟩, hfront, hback, List.append_nil]

end Placeholder

/-- The store keeps a value for a name in braces, whatever the name. -/
theorem Bindings.key_eq_named {name : String} (h : '{' ∉ name.toList) : key name = named name := by
  have hopen : openBraces.isPrefixOf name.toList = false := by
    cases hname : name.toList with
    | nil => rfl
    | cons c cs =>
      rw [hname] at h
      have hc : c ≠ '{' := fun heq => h (heq ▸ List.mem_cons_self)
      simp [openBraces, List.isPrefixOf, hc.symm]
  rw [key, hopen, named_eq_token]
  rfl

/-! ## A condition on a named value -/

/-- A condition on the value of a name. -/
def Condition.onNamed (name : String) : String := "x = " ++ named name

namespace Condition

variable {name : String}

theorem placeholders_onNamed (hname : '{' ∉ name.toList ∧ '}' ∉ name.toList) :
    placeholders (onNamed name) =
      if name.toList.all Text.isWord then [named name] else [] := by
  rw [onNamed, placeholders_lead (by decide), placeholders_named hname]

/-- The condition comes to a mark and the value if the name is one of placeholders, and otherwise it
stays as it is. -/
theorem rendered_onNamed (hname : '{' ∉ name.toList ∧ '}' ∉ name.toList) {q : Query}
    (hbound : q.boundParameters = true) {v : Value} (hv : q.bindings.get? (named name) = some v) :
    q.rendered (onNamed name) =
      if name.toList.all Text.isWord then ("x = ?", [v]) else (onNamed name, []) := by
  have hplaceholders := placeholders_onNamed hname
  split
  · rename_i hword
    have hfill : fill q.standIn (template (named name)) = "?" := by
      rw [named_eq_token, template_token (List.all_eq_true.1 hword), fill_slot, fill_nil,
        String.append_empty, Query.standIn, if_pos hbound]
    rw [if_pos hword] at hplaceholders
    rw [Query.rendered, hplaceholders, onNamed, fill_lead (by decide), hfill]
    simp [Query.contributed, hbound, hv]
  · rename_i hword
    rw [if_neg hword] at hplaceholders
    exact Query.rendered_of_placeholders_eq_nil hplaceholders

end Condition

/-- The draft with a value stored under a name. -/
def Draft.withNamed (d : Draft) (name : String) (v : Value) : Draft :=
  { d with query := { d.query with bindings := Bindings.put d.query.bindings name v } }

/-- The draft with a condition on a value that was stored under a name. -/
def Draft.withNamedCondition (d : Draft) (name : String) (v : Value) : Draft :=
  (d.withNamed name v).withClause (some (Condition.onNamed name))

namespace Draft

open Condition (onNamed)

variable {d : Draft} {name : String}

theorem get?_named (hname : '{' ∉ name.toList) (v : Value) :
    (d.withNamedCondition name v).query.bindings.get? (named name) = some v.stored := by
  change (Bindings.put d.query.bindings name v).get? (named name) = _
  rw [Bindings.put, Bindings.key_eq_named hname, Dict.get?_insert, if_pos rfl]

theorem stores_onNamed (hname : '{' ∉ name.toList ∧ '}' ∉ name.toList) (v : Value) :
    (d.withNamedCondition name v).query.Stores (placeholders (onNamed name)) := by
  intro t ht
  rw [Condition.placeholders_onNamed hname] at ht
  split at ht
  · rw [List.mem_singleton.1 ht, get?_named hname.1]
    rfl
  · cases ht

theorem mem_fragments_withNamedCondition {v : Value} {s : String}
    (h : s ∈ (d.withNamedCondition name v).query.fragments .select) :
    s ∈ d.query.fragments .select ∨ s = onNamed name := by
  have hfragments : (d.withNamedCondition name v).query.fragments .select =
      d.query.columns ++ d.query.sourceFragments ++ d.query.joins ++
        (d.query.conditions ++ [onNamed name]) ++ d.query.groupBy ++ d.query.orderBy ++
        d.query.limit.toList := rfl
  rw [hfragments] at h
  simp only [Query.fragments, List.mem_append, List.mem_singleton] at h ⊢
  tauto

/-- A condition on a named value keeps no selection from compiling. -/
theorem compile_withNamedCondition (hname : '{' ∉ name.toList ∧ '}' ∉ name.toList) (v : Value)
    (ha : d.query.action = some .select) (hd : ∃ c, d.query.compile = .ok c) :
    ∃ c, (d.withNamedCondition name v).query.compile = .ok c := by
  obtain ⟨c, hc⟩ := hd
  have hq : d.query.Complete .select := Query.complete_of_compile ha (fun h => nomatch h) hc
  refine Query.exists_compile_of_fragments (r := (d.withNamedCondition name v).query) ha hc ha
    hq.source (fun t => Dict.isSome_get?_insert) fun s hs => ?_
  rcases mem_fragments_withNamedCondition hs with hold | rfl
  · exact .inl hold
  · exact .inr (stores_onNamed hname v)

end Draft

namespace Call

open Condition (onNamed)

theorem run_insertBinding (name : String) (v : Value) (d : Draft) :
    (insertBinding name v).run d = (.ok none, d.withNamed name v) := rfl

theorem run_whereClause_onNamed (name : String) (d : Draft) :
    (whereClause (.raw (onNamed name))).run d =
      (.ok none, d.withClause (some (onNamed name))) := by
  have hlead : onNamed name ≠ Query.leadingAnd := by
    intro heq
    have hhead := congrArg (fun s : String => s.toList.head?) heq
    simp [onNamed, Query.leadingAnd] at hhead
  have hcombined : Condition.combined [onNamed name] = some (onNamed name) := by
    rw [Condition.combined, List.head?_cons, if_neg fun h => hlead (Option.some.inj h)]
    rfl
  rw [whereClause, run_addCondition, adding_apply]
  change (Except.ok none, d.withClause (Condition.combined [onNamed name])) = _
  rw [hcombined]

/-- **A named value is used if its name is one of placeholders.** Take a selection with a source and
bound parameters. Storing a value under a name without braces and adding a condition on it succeed,
whatever the name and the value.

The condition then stands in the text between two others. The query compiles just if all that these
refer to is stored, and so it does if it compiled before. What it compiles to is the first text
rendered, the condition and the second text, and likewise for the data. The condition is rendered to
a mark with the value if the name has word characters only; with any other name it is left as it is,
and the value is not used. -/
theorem named_value_used {d : Draft} (haction : d.query.action = some .select)
    (hsource : d.query.hasSource = true) (hbound : d.query.boundParameters = true) {name : String}
    (hname : '{' ∉ name.toList ∧ '}' ∉ name.toList) (v : Value) :
    ∃ e f front back,
      (insertBinding name v).run d = (.ok none, e) ∧
      (whereClause (.raw (onNamed name))).run e = (.ok none, f) ∧
      f.query.conditions = d.query.conditions ++ [onNamed name] ∧
      f.query.selectText = front ++ onNamed name ++ back ∧
      ((∃ c, f.query.compile = .ok c) ↔
        f.query.Stores (placeholders front) ∧ f.query.Stores (placeholders back)) ∧
      ((∃ c, d.query.compile = .ok c) → ∃ c, f.query.compile = .ok c) ∧
      (∀ c, f.query.compile = .ok c →
        c.query = (f.query.rendered front).1 ++ (f.query.rendered (onNamed name)).1 ++
          (f.query.rendered back).1 ∧
        c.data = (f.query.rendered front).2 ++ (f.query.rendered (onNamed name)).2 ++
          (f.query.rendered back).2) ∧
      f.query.rendered (onNamed name) =
        if name.toList.all Text.isWord then ("x = ?", [v.stored]) else (onNamed name, []) := by
  have haction' : (d.withNamedCondition name v).query.action = some .select := haction
  have hsource' : (d.withNamedCondition name v).query.hasSource = true := hsource
  have hmem : onNamed name ∈ (d.withNamedCondition name v).query.conditions :=
    List.mem_append_right _ (List.mem_singleton_self _)
  obtain ⟨front, back, hfront, hback, htext⟩ := Query.exists_selectText_condition hmem
  have hrendered : (d.withNamedCondition name v).query.rendered (onNamed name) =
      if name.toList.all Text.isWord then ("x = ?", [v.stored]) else (onNamed name, []) :=
    Condition.rendered_onNamed (q := (d.withNamedCondition name v).query) hname hbound
      (Draft.get?_named hname.1 v)
  refine ⟨d.withNamed name v, d.withNamedCondition name v, front, back, run_insertBinding name v d,
    run_whereClause_onNamed name _, rfl, htext, ?_,
    Draft.compile_withNamedCondition hname v haction, fun c hc => ?_, hrendered⟩
  · rw [Query.exists_compile_iff haction' hsource', htext, Query.stores_apart hfront hback]
    exact ⟨fun ⟨h, _, h'⟩ => ⟨h, h'⟩, fun ⟨h, h'⟩ => ⟨h, Draft.stores_onNamed hname v, h'⟩⟩
  · obtain ⟨-, rfl⟩ := (Query.compile_select haction' hsource').1 hc
    rw [htext, Query.rendered_apart hfront hback]
    exact ⟨rfl, rfl⟩

/-- A selection with two conditions, one of them on a stored value. -/
def openOrders : Draft :=
  ((insertBinding "least" (.int 10)).run
    ⟨{ action := some .select, tableName := some "orders", orderBy := ["{{least}}"],
       conditions := ["total > {{least}}", "open"] }, 0, []⟩).2

theorem named_value_used_openOrders :
    openOrders.query.action = some .select ∧ openOrders.query.hasSource = true ∧
      openOrders.query.boundParameters = true ∧
      ('{' ∉ "größe_1".toList ∧ '}' ∉ "größe_1".toList) ∧
      ∃ e f, (insertBinding "größe_1" (.text "L")).run openOrders = (.ok none, e) ∧
        (whereClause (.raw (onNamed "größe_1"))).run e = (.ok none, f) ∧
        f.query.rendered (onNamed "größe_1") = ("x = ?", [.text "L"]) ∧
        f.query.compile = .ok ⟨"SELECT * FROM `orders` WHERE total > ? AND open AND x = ? ORDER BY ?",
          [.int 10, .text "L", .int 10]⟩ := by
  have hname : '{' ∉ "größe_1".toList ∧ '}' ∉ "größe_1".toList := by decide +kernel
  have hword : "größe_1".toList.all Text.isWord = true := by decide +kernel
  obtain ⟨e, f, front, back, hinsert, hwhere, -, -, -, -, -, hrendered⟩ :=
    named_value_used (d := openOrders) rfl rfl rfl hname (.text "L")
  rw [if_pos hword] at hrendered
  obtain rfl : ((insertBinding "größe_1" (.text "L")).run openOrders).2 = e := by rw [hinsert]
  obtain rfl : ((whereClause (.raw (onNamed "größe_1"))).run
    ((insertBinding "größe_1" (.text "L")).run openOrders).2).2 = f := by rw [hwhere]
  exact ⟨rfl, rfl, rfl, hname, _, _, hinsert, hwhere, hrendered, by decide +kernel⟩

/-- A name with a hyphen is accepted, and the placeholder it was accepted for stays in the compiled
text, without its value. -/
theorem named_value_left :
    let d : Draft := ⟨{ action := some .select, tableName := some "t" }, 0, []⟩
    let e := ((insertBinding "order-type" (.int 5)).run d).2
    let f := ((whereClause (.raw "x = \x7b\x7border-type\x7d\x7d")).run e).2
    e.query.bindings.get? "\x7b\x7border-type\x7d\x7d" = some (.int 5) ∧
      f.query.compile =
        .ok ⟨"SELECT * FROM `t` WHERE x = \x7b\x7border-type\x7d\x7d", []⟩ := by
  decide +kernel

end Call
end SqlBuilder
