import SqlBuilder.Call
import SqlBuilder.Proofs.Supply.Join

/-!
# Taking over bindings

Four calls put a query into another one: as the source, as a column, as the target of a join, and
as a group of conditions. Each writes the text of the query as it is, with its placeholders, and
takes over the bindings this text refers to (`Binder.TakesOver`); the text can be found in a clause
of the receiving query afterwards.

What a placeholder stands for after that is `TakesOver.get?_eq`: where the text refers to it and
the query that was put in holds a value, that value, and otherwise what it stood for before. Nothing
asks which of the two queries stored a value under the placeholder, or whether both did.
-/

namespace SqlBuilder

open Binder (tokenOf)

/-! ## What is taken over -/

/-- The second state comes from the first by taking over the bindings that the text refers to, and
then by binding values to new placeholders at most. -/
def Binder.TakesOver (b : Binder) (q : Query) (text : String) (c : Binder) : Prop :=
  ∃ mid names, mid.bindings = b.bindings.merge (q.bindings.referenced text) ∧
    b.lastId ≤ mid.lastId ∧ Binder.Grows (fun _ _ => False) mid names c

theorem Binder.takesOver_absorb {b mid : Binder} (q : Query) (text : String) (note : Nat → Note)
    (hbindings : mid.bindings = b.bindings) (hle : b.lastId ≤ mid.lastId) :
    b.TakesOver q text (absorb (q.bindings.referenced text) note mid).2 :=
  ⟨(absorb (q.bindings.referenced text) note mid).2, [], hbindings ▸ rfl, hle, .refl _⟩

theorem Binder.TakesOver.get?_eq {b c : Binder} {q : Query} {text : String}
    (h : b.TakesOver q text c) {t : String} (ht : ∀ n, b.lastId < n → t ≠ tokenOf n) :
    c.bindings.get? t =
      if t ∈ placeholders text then (q.bindings.get? t).or (b.bindings.get? t)
      else b.bindings.get? t := by
  obtain ⟨mid, names, hmid, hle, hgrows⟩ := h
  have hreferenced : (q.bindings.referenced text).get? t =
      if t ∈ placeholders text then q.bindings.get? t else none :=
    Bindings.get?_referenced ..
  rw [hgrows.get?_eq fun n hn => ht n (by omega), hmid, Dict.get?_merge, hreferenced]
  split <;> rfl

namespace Query

/-- The name of the query where it is a sub-query, with the number of names generated before. -/
def nameFrom (q : Query) (lastId : Nat) : String :=
  q.asName.getD (Binder.nameOf "subquery" (lastId + 1))

/-- The query as a selection in parentheses under its name. -/
def embedding (q : Query) (lastId : Nat) : String :=
  "(" ++ q.selectText ++ ") as " ++ Identifier.quote (q.nameFrom lastId)

theorem embed_apply {q : Query} (h : q.hasSource = true) (b : Binder) :
    ∃ c, q.embed b = (.ok (q.embedding b.lastId), c) ∧ b.TakesOver q q.selectText c := by
  unfold embed nameInside embedding nameFrom
  simp only [h, if_true]
  cases q.asName with
  | some name => exact ⟨_, rfl, Binder.takesOver_absorb q _ _ rfl (Nat.le_refl _)⟩
  | none => exact ⟨_, rfl, Binder.takesOver_absorb q _ _ rfl (Nat.le_succ _)⟩

/-- Only a query with a source is ever embedded. -/
theorem embed_eq_ok {q : Query} {b c : Binder} {text : String} (h : q.embed b = (.ok text, c)) :
    text = q.embedding b.lastId ∧ b.TakesOver q q.selectText c := by
  by_cases hsource : q.hasSource
  · obtain ⟨c', hc', htakes⟩ := embed_apply hsource b
    rw [hc'] at h
    obtain ⟨htext, rfl⟩ := Prod.mk.inj h
    exact ⟨(Except.ok.inj htext).symm, htakes⟩
  · unfold embed at h
    simp only [hsource] at h
    cases h

end Query

/-! ## Writing a fragment -/

theorem Edit.write_of_ok {α : Type} {r : Render α} {a : α} {d : Draft} {b : Binder}
    (h : r d.binder = (.ok a, b)) : Edit.write r d = (.ok a, d.withBinder b) := by
  rw [Edit.write, h]

theorem Edit.write_eq_ok {α : Type} {r : Render α} {a : α} {d e : Draft}
    (h : Edit.write r d = (.ok a, e)) : ∃ b, r d.binder = (.ok a, b) ∧ e = d.withBinder b := by
  rcases hr : r d.binder with ⟨result, b⟩
  simp only [Edit.write, hr] at h
  cases h
  exact ⟨b, rfl, rfl⟩

theorem Column.text_query_eq_ok {q : Query} {b c : Binder} {text : String}
    (h : (Column.query q).text b = (.ok text, c)) : q.embed b = (.ok text, c) := by
  by_cases hsingle : isSingle q
  · simpa [Column.text, hsingle] using h
  · simp only [Column.text, hsingle] at h
    cases h

/-- The target of a join is embedded first; what the two sides are joined on comes after it. -/
theorem Join.optionsText_query_eq_ok {q : Query} {o : JoinOptions Query} {b c : Binder}
    {text : String} (ho : o.target = some (.query q)) (h : optionsText o b = (.ok text, c)) :
    ∃ link, text = spaced (o.kind.toList ++ ["JOIN"] ++
        [(q.under o.aliasName).embedding b.lastId] ++ link) ∧
      b.TakesOver q q.selectText c := by
  obtain ⟨target, mid, htarget, h⟩ := bind_eq_ok h
  obtain ⟨link, _, hlink, hpure⟩ := bind_eq_ok h
  cases hpure
  rw [ho] at htarget
  obtain ⟨text, _, hembed, hpure⟩ := bind_eq_ok htarget
  cases hpure
  obtain ⟨rfl, before, names, hbefore, hle, hgrows⟩ := Query.embed_eq_ok hembed
  obtain ⟨more, hmore⟩ := (linkParts_writes (S := fun _ _ => False) o).grows mid
  rw [hlink] at hmore
  exact ⟨link, rfl, before, _, hbefore, hle, hgrows.trans hmore⟩

/-! ## The calls -/

namespace Call

variable {q : Query} {d e : Draft} {r : Option String}

theorem run_fromSubquery {aliasName : Option String}
    (h : (fromSubquery q aliasName).run d = (.ok r, e)) :
    e.query.subquery = some ((q.under aliasName).embedding d.lastId) ∧
      e.query.boundParameters = d.query.boundParameters ∧
      d.binder.TakesOver q q.selectText e.binder := by
  obtain ⟨_, _, hedit, hnone⟩ := bind_eq_ok h
  cases hnone
  obtain ⟨_, _, hwrite, hchange⟩ := bind_eq_ok hedit
  cases hchange
  obtain ⟨b, hsome, rfl⟩ := Edit.write_eq_ok hwrite
  obtain ⟨text, _, hembed, hpure⟩ := bind_eq_ok hsome
  cases hpure
  obtain ⟨rfl, htakes⟩ := Query.embed_eq_ok hembed
  exact ⟨rfl, rfl, htakes⟩

theorem run_addColumn {unique : Bool} (h : (addColumn (.query q) unique).run d = (.ok r, e)) :
    e.query.columns = (if d.query.hasAllColumns then [] else d.query.columns) ++
        [q.embedding d.lastId] ∧
      e.query.boundParameters = d.query.boundParameters ∧
      d.binder.TakesOver q q.selectText e.binder := by
  obtain ⟨_, _, hedit, hnone⟩ := bind_eq_ok h
  cases hnone
  obtain ⟨_, d', hleave, hedit⟩ := bind_eq_ok hedit
  obtain ⟨text, _, hwrite, hchange⟩ := bind_eq_ok hedit
  cases hchange
  obtain ⟨b, htext, rfl⟩ := Edit.write_eq_ok hwrite
  cases hleave
  obtain ⟨rfl, htakes⟩ := Query.embed_eq_ok (Column.text_query_eq_ok htext)
  by_cases hall : d.query.hasAllColumns
  · simp_all [Column.isName, Draft.withBinder, Draft.binder]
  · simp_all [Column.isName, Draft.withBinder, Draft.binder]

theorem run_joinWith {kind : Option JoinKind} {o : JoinOptions Query}
    (h : (joinWith kind (.query q) o).run d = (.ok r, e)) :
    (∃ link, e.query.joins = d.query.joins ++ [spaced (((kind.map JoinKind.keyword).or o.kind).toList
        ++ ["JOIN"] ++ [(q.under o.aliasName).embedding d.lastId] ++ link)]) ∧
      e.query.boundParameters = d.query.boundParameters ∧
      d.binder.TakesOver q q.selectText e.binder := by
  obtain ⟨_, _, hedit, hnone⟩ := bind_eq_ok h
  cases hnone
  obtain ⟨text, _, hwrite, hchange⟩ := bind_eq_ok hedit
  cases hchange
  obtain ⟨b, htext, rfl⟩ := Edit.write_eq_ok hwrite
  obtain ⟨link, rfl, htakes⟩ := Join.optionsText_query_eq_ok rfl htext
  exact ⟨⟨link, rfl⟩, rfl, htakes⟩

theorem run_whereClause (h : (whereClause (.query q)).run d = (.ok r, e)) :
    e.query.conditions = d.query.conditions ++ (Condition.combined q.group).toList ∧
      e.query.boundParameters = d.query.boundParameters ∧
      d.binder.TakesOver q (spaced q.group) e.binder := by
  obtain ⟨_, _, hedit, hnone⟩ := bind_eq_ok h
  cases hnone
  obtain ⟨text, _, hwrite, hchange⟩ := bind_eq_ok hedit
  cases hchange
  obtain ⟨b, htext, rfl⟩ := Edit.write_eq_ok hwrite
  obtain ⟨parts, _, hparts, hpure⟩ := bind_eq_ok htext
  cases hpure
  obtain ⟨hgroup, hstate⟩ := Prod.mk.inj hparts
  obtain rfl : q.group = parts := Except.ok.inj hgroup
  subst hstate
  exact ⟨rfl, rfl, Binder.takesOver_absorb q _ .conditions rfl (Nat.le_refl _)⟩

/-- A query with a source can always be read from. -/
theorem exists_run_fromSubquery (h : q.hasSource = true) (aliasName : Option String) (d : Draft) :
    ∃ e, (fromSubquery q aliasName).run d = (.ok none, e) := by
  obtain ⟨b, hb, -⟩ :=
    Query.embed_apply (q := q.under aliasName) h d.binder
  have hsome := bind_of_ok (k := fun text => (pure (some text) : Render (Option String))) hb
  have hedit : Edit.fromSubquery q aliasName d = _ := bind_of_ok (Edit.write_of_ok hsome)
  exact ⟨_, bind_of_ok hedit⟩

/-- A query can always be added as a group of conditions. -/
theorem exists_run_whereClause (q : Query) (d : Draft) :
    ∃ e, (whereClause (.query q)).run d = (.ok none, e) :=
  ⟨_, rfl⟩

end Call
end SqlBuilder
