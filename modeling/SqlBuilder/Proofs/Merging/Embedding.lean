import SqlBuilder.Proofs.Merging.TakesOver
import SqlBuilder.Proofs.Names.Session

/-!
# Queries inside queries compile as by themselves

A query that is put into another one is not compiled there: its text goes over with all its
placeholders, and what they stand for is decided when the receiver compiles. This module shows
that the outcome is the same. What the query compiles to as a selection is what its text in the
receiver resolves to, with the parentheses and the name around it and with the same data.

Two facts carry this. Resolving depends on the bindings only through the placeholders of the text
(`resolve_congr`), and for these the receiver holds what the query held, for it took over
all of them, whatever it held before (`Binder.TakesOver.resolve_eq_ok`). And a text that is put
between other texts is filled as by itself if what is next to it breaks placeholders
(`resolve_named`). How the query came to hold its text plays no part, so it may have other queries
inside, down to any depth.
-/

namespace SqlBuilder

open Placeholder
open Binder (tokenOf)

/-- A compiled selection in parentheses under a name. -/
def Compiled.named (c : Compiled) (name : String) : Compiled :=
  ⟨"(" ++ c.query ++ ") as " ++ Identifier.quote name, c.data⟩

namespace Query

variable {p q : Query} {sql : String} {c : Compiled}

/-! ## Resolving -/

/-- What stands for a placeholder in the resolved text. -/
def standIn (q : Query) (t : String) : String :=
  if q.boundParameters then "?" else (q.bindings.get? t).elim t Value.literal

/-- The values that placeholders contribute to the data. -/
def contributed (q : Query) (ts : List String) : List Value :=
  if q.boundParameters then ts.filterMap q.bindings.get? else []

theorem resolve_eq_ok_iff : q.resolve sql = .ok c ↔
    q.Stores (placeholders sql) ∧
      c = ⟨fill q.standIn (template sql), q.contributed (placeholders sql)⟩ := by
  have hfind : (tokens (template sql)).find? (fun k => (q.bindings.get? k).isNone) = none ↔
      q.Stores (placeholders sql) := by
    simp [List.find?_eq_none, Stores, placeholders, Option.isSome_iff_ne_none]
  have hstandIn : q.standIn =
      if q.boundParameters then fun _ => "?"
      else fun k => (q.bindings.get? k).elim k Value.literal := by
    funext t
    unfold standIn
    split <;> rfl
  rw [← hfind, hstandIn]
  unfold resolve contributed
  dsimp only
  split
  · rename_i k hk
    simp [hk]
  · rename_i hnone
    rw [hnone]
    by_cases hb : q.boundParameters <;> simp [hb, placeholders, eq_comm]

/-- Only the values of the placeholders in the text matter. -/
theorem resolve_congr (hmode : p.boundParameters = q.boundParameters)
    (h : ∀ t ∈ placeholders sql, p.bindings.get? t = q.bindings.get? t) :
    p.resolve sql = q.resolve sql := by
  have hfind : (tokens (template sql)).find? (fun k => (p.bindings.get? k).isNone) =
      (tokens (template sql)).find? fun k => (q.bindings.get? k).isNone := by
    rw [← List.head?_filter, ← List.head?_filter]
    exact congrArg List.head? (List.filter_congr fun t ht => by rw [h t ht])
  have hfill : fill (fun k => (p.bindings.get? k).elim k Value.literal) (template sql) =
      fill (fun k => (q.bindings.get? k).elim k Value.literal) (template sql) :=
    fill_congr fun t ht => by rw [h t ht]
  have hdata : (tokens (template sql)).filterMap p.bindings.get? =
      (tokens (template sql)).filterMap q.bindings.get? :=
    List.filterMap_congr h
  simp only [resolve, hfind, hfill, hdata, hmode]

/-! ## A compiled selection inside another text -/

theorem placeholders_named (sql : String) {name : String} (h : placeholders name = []) :
    placeholders ("(" ++ sql ++ ") as " ++ Identifier.quote name) = placeholders sql := by
  rw [placeholders_glue (by decide), placeholders_lead (by decide), placeholders_quote, h,
    List.append_nil]

theorem fill_named (f : String → String) (sql : String) {name : String}
    (h : placeholders name = []) :
    fill f (template ("(" ++ sql ++ ") as " ++ Identifier.quote name)) =
      "(" ++ fill f (template sql) ++ ") as " ++ Identifier.quote name := by
  have hrest : placeholders (" as " ++ Identifier.quote name) = [] := by
    rw [placeholders_lead (by decide), placeholders_quote, h]
  have hcut (s : String) : "(" ++ s ++ ") as " ++ Identifier.quote name =
      "" ++ String.singleton '(' ++
        (s ++ String.singleton ')' ++ (" as " ++ Identifier.quote name)) := by
    apply String.toList_inj.1
    simp
  rw [hcut, hcut, fill_template_append (by decide), fill_template_append (by decide),
    fill_of_placeholders_eq_nil hrest]
  rfl

/-- Parentheses and a name are all that is put around the outcome. -/
theorem resolve_named {name : String} (hname : placeholders name = [])
    (h : q.resolve sql = .ok c) :
    q.resolve ("(" ++ sql ++ ") as " ++ Identifier.quote name) = .ok (c.named name) := by
  rw [resolve_eq_ok_iff] at h ⊢
  obtain ⟨hstores, rfl⟩ := h
  rw [placeholders_named sql hname, fill_named _ sql hname]
  exact ⟨hstores, rfl⟩

/-! ## Compiling as a selection -/

/-- The query as a selection that compiles to marks and values. -/
def asSelection (q : Query) : Query := { q with action := some .select, boundParameters := true }

theorem asSelection_compile_eq_ok (h : q.asSelection.compile = .ok c) :
    q.hasSource = true ∧ q.asSelection.resolve q.selectText = .ok c := by
  have hwritten := h
  rw [compile_eq] at hwritten
  cases hw : q.asSelection.written with
  | error f =>
    rw [hw] at hwritten
    cases hwritten
  | ok w =>
    rcases written_eq_ok hw with ⟨a, ha, -⟩ | ⟨hrows, -⟩
    · obtain rfl : Action.select = a := Option.some.inj ha.action
      rw [ha.compile_eq] at h
      exact ⟨ha.source, h⟩
    · cases hrows.action

/-- The conditions of a query that compiles can be resolved one by one. -/
theorem exists_resolve_condition (h : q.asSelection.compile = .ok c) {f : String}
    (hf : f ∈ q.conditions) : ∃ r, q.asSelection.resolve f = .ok r := by
  obtain ⟨-, hresolve⟩ := asSelection_compile_eq_ok h
  obtain ⟨hstores, -⟩ := resolve_eq_ok_iff.1 hresolve
  refine ⟨_, resolve_eq_ok_iff.2 ⟨fun t ht => hstores t ?_, rfl⟩⟩
  rw [show q.selectText = q.statementText .select from rfl, placeholders_statementText]
  exact List.mem_flatMap.2 ⟨f, by simp [fragments, hf], ht⟩

end Query

/-! ## After the merge -/

/-- A text of the query means in the receiver what it meant in the query, if all its placeholders
were taken over. -/
theorem Binder.TakesOver.resolve_eq_ok {d e : Draft} {q : Query} {text sql : String} {c : Compiled}
    (h : d.binder.TakesOver q text e.binder) (hmode : e.query.boundParameters = true)
    (hahead : ∀ n, d.lastId < n → q.bindings.get? (tokenOf n) = none)
    (hsub : placeholders sql ⊆ placeholders text) (hq : q.asSelection.resolve sql = .ok c) :
    e.query.resolve sql = .ok c := by
  refine (Query.resolve_congr hmode fun t ht => ?_).trans hq
  obtain ⟨v, hv⟩ := Option.isSome_iff_exists.1 ((Query.resolve_eq_ok_iff.1 hq).1 t ht)
  have hfresh (n : Nat) (hn : d.lastId < n) : t ≠ tokenOf n := by
    rintro rfl
    cases (hahead n hn).symm.trans hv
  have hget := h.get?_eq hfresh
  rw [if_pos (hsub ht), show q.bindings.get? t = some v from hv, Option.some_or] at hget
  exact hget.trans hv.symm

namespace Query

/-- There is no placeholder in the name of the query. -/
def PlainName (q : Query) : Prop := ∀ name ∈ q.asName, placeholders name = []

theorem PlainName.placeholders_nameFrom {q : Query} (h : q.PlainName) (lastId : Nat) :
    placeholders (q.nameFrom lastId) = [] := by
  unfold nameFrom
  cases hname : q.asName with
  | none => exact Binder.placeholders_nameOf_subquery _
  | some name => exact h name hname

/-- Conditions of which none is the word AND are grouped under their own connective. -/
theorem combined_group {q : Query} (h : leadingAnd ∉ q.conditions) :
    Condition.combined q.group =
      Condition.joined (if q.connective = some .and then .and else .or) q.conditions := by
  unfold Condition.combined group
  by_cases hand : q.connective = some .and
  · simp [hand]
  · have hhead : q.conditions.head? ≠ some leadingAnd := fun hhead =>
      h (List.mem_of_mem_head? hhead)
    simp [hand, hhead]

theorem mem_group {q : Query} {f : String} (h : f ∈ q.conditions) : f ∈ q.group := by
  unfold group
  split
  · exact List.mem_cons_of_mem _ h
  · exact h

end Query

theorem Condition.exists_joined (connective : Connective) {parts : List String} (h : parts ≠ []) :
    ∃ text, joined connective parts = some text := by
  match parts, h with
  | [part], _ => exact ⟨part, rfl⟩
  | _ :: _ :: _, _ => exact ⟨_, rfl⟩

namespace Call

variable {d e : Draft} {q : Query} {c : Compiled}

/-- The text of the query in the receiver resolves to what the query compiles to. -/
theorem resolve_embedding (hmode : e.query.boundParameters = true)
    (hahead : ∀ n, d.lastId < n → q.bindings.get? (tokenOf n) = none)
    (hc : q.asSelection.compile = .ok c) (aliasName : Option String)
    (hname : (q.under aliasName).PlainName)
    (h : d.binder.TakesOver q q.selectText e.binder) :
    e.query.resolve ((q.under aliasName).embedding d.lastId) =
      .ok (c.named ((q.under aliasName).nameFrom d.lastId)) := by
  obtain ⟨-, hresolve⟩ := Query.asSelection_compile_eq_ok hc
  refine Query.resolve_named (hname.placeholders_nameFrom _) ?_
  exact h.resolve_eq_ok hmode hahead (List.Subset.refl _) hresolve

/-- **A query inside another one is what it compiles to.** The receiver hands out values in marks,
and no generated placeholder of the query is ahead of the counter, which is so in a session whose
caller forges none (`Session.Unforged.not_ahead`). Then the text of the query as the source, as a
column or as the target of a join resolves in the receiver to what the query compiles to as a
selection, in parentheses under its name and with the same data. As a condition the query is the
group of its conditions, each of which resolves in the receiver as it does in the query. -/
theorem embedded_as_compiled (hd : d.query.boundParameters = true)
    (hahead : ∀ n, d.lastId < n → q.bindings.get? (tokenOf n) = none) :
    (∀ c, q.asSelection.compile = .ok c →
      (∀ aliasName, (q.under aliasName).PlainName → ∃ e text,
        (fromSubquery q aliasName).run d = (.ok none, e) ∧ e.query.subquery = some text ∧
          e.query.resolve text = .ok (c.named ((q.under aliasName).nameFrom d.lastId))) ∧
      (∀ unique r e, q.PlainName → (addColumn (.query q) unique).run d = (.ok r, e) → ∃ text,
        e.query.columns = (if d.query.hasAllColumns then [] else d.query.columns) ++ [text] ∧
          e.query.resolve text = .ok (c.named (q.nameFrom d.lastId))) ∧
      (∀ kind o r e, (q.under o.aliasName).PlainName →
        (joinWith kind (.query q) o).run d = (.ok r, e) → ∃ text link,
          e.query.joins = d.query.joins ++ [spaced (((kind.map JoinKind.keyword).or o.kind).toList ++
            ["JOIN"] ++ [text] ++ link)] ∧
          e.query.resolve text = .ok (c.named ((q.under o.aliasName).nameFrom d.lastId))) ∧
      ∀ f ∈ q.conditions, ∃ r, q.asSelection.resolve f = .ok r) ∧
    (q.conditions ≠ [] → Query.leadingAnd ∉ q.conditions → ∃ e text,
      (whereClause (.query q)).run d = (.ok none, e) ∧
        Condition.joined (if q.connective = some .and then .and else .or) q.conditions =
          some text ∧
        e.query.conditions = d.query.conditions ++ [text] ∧
          ∀ f ∈ q.conditions, ∀ r, q.asSelection.resolve f = .ok r →
            e.query.resolve f = .ok r) := by
  refine ⟨fun c hc => ⟨fun aliasName hname => ?_, fun unique r e hname hrun => ?_,
    fun kind o r e hname hrun => ?_, fun f => Query.exists_resolve_condition hc⟩,
    fun hconditions hand => ?_⟩
  · obtain ⟨e, hrun⟩ := exists_run_fromSubquery (Query.asSelection_compile_eq_ok hc).1 aliasName d
    obtain ⟨hsource, hmode, htakes⟩ := run_fromSubquery hrun
    exact ⟨e, _, hrun, hsource, resolve_embedding (hmode.trans hd) hahead hc _ hname htakes⟩
  · obtain ⟨hcolumns, hmode, htakes⟩ := run_addColumn hrun
    exact ⟨_, hcolumns, resolve_embedding (hmode.trans hd) hahead hc none hname htakes⟩
  · obtain ⟨⟨link, hjoins⟩, hmode, htakes⟩ := run_joinWith hrun
    exact ⟨_, link, hjoins, resolve_embedding (hmode.trans hd) hahead hc _ hname htakes⟩
  · obtain ⟨text, htext⟩ := Condition.exists_joined
      (if q.connective = some .and then .and else .or) hconditions
    obtain ⟨e, hrun⟩ := exists_run_whereClause q d
    obtain ⟨hgroup, hmode, htakes⟩ := run_whereClause hrun
    rw [Query.combined_group hand, htext] at hgroup
    refine ⟨e, text, hrun, htext, hgroup, fun f hf r hr => ?_⟩
    refine htakes.resolve_eq_ok (hmode.trans hd) hahead (fun t ht => ?_) hr
    rw [placeholders_spaced]
    exact List.mem_flatMap.2 ⟨f, Query.mem_group hf, ht⟩

end Call

namespace Session

/-- A query with another one as its source, and a third that stores another value under the same
name. -/
def layered : List Command :=
  [.create "r" (.actingOn .select "v"), .call "r" (Call.whereEq (.raw "k") (.value (.int 5))),
    .create "s" (.acting .select), .call "s" (.fromSubquery "r" (some "r")),
    .call "s" (.insertBinding "x" (.int 2)), .call "s" (Call.whereClause (.raw "a = {{x}}")),
    .call "s" (.asName "s"), .create "p" (.acting .select), .call "p" (.table "t" none),
    .call "p" (.insertBinding "x" (.int 1))]

theorem layered_resolve : ∃ p q e text, (run {} layered).2.queries.get? "p" = some p ∧
    (run {} layered).2.queries.get? "s" = some q ∧
      p.boundParameters = true ∧ p.bindings.get? "{{x}}" = some (.int 1) ∧
        (∀ n, (run {} layered).2.lastId < n → q.bindings.get? (tokenOf n) = none) ∧
          (q.under none).PlainName ∧ q.asSelection.compile =
            .ok ⟨"SELECT * FROM (SELECT * FROM `v` WHERE k = ?) as `r` WHERE a = ?",
              [.int 5, .int 2]⟩ ∧
            (Call.fromSubquery q none).run ⟨p, (run {} layered).2.lastId, []⟩ = (.ok none, e) ∧
              e.query.subquery = some text ∧ e.query.resolve text =
                .ok ⟨"(SELECT * FROM (SELECT * FROM `v` WHERE k = ?) as `r` WHERE a = ?) as `s`",
                  [.int 5, .int 2]⟩ := by
  have hunforged : (run {} layered).2.Unforged := by
    refine ⟨{}, layered, rfl, ?_, rfl⟩
    simp only [layered, List.forall_mem_cons]
    exact ⟨rfl, trivial, rfl, trivial, Binder.ne_tokenOf (by decide +kernel), trivial, trivial, rfl,
      trivial, Binder.ne_tokenOf (by decide +kernel), List.forall_mem_nil _⟩
  have hp : ((run {} layered).2.queries.get? "p").map
      (fun p => (p.boundParameters, p.bindings.get? "{{x}}")) = some (true, some (.int 1)) := by
    decide +kernel
  have hq : ((run {} layered).2.queries.get? "s").map (fun q => (q.asName, q.asSelection.compile)) =
      some (some "s",
        .ok ⟨"SELECT * FROM (SELECT * FROM `v` WHERE k = ?) as `r` WHERE a = ?",
          [.int 5, .int 2]⟩) := by decide +kernel
  obtain ⟨p, hp, hreceiver⟩ := Option.map_eq_some_iff.1 hp
  obtain ⟨q, hq, hguest⟩ := Option.map_eq_some_iff.1 hq
  obtain ⟨hmode, hx⟩ := Prod.mk.inj hreceiver
  obtain ⟨hname, hcompile⟩ := Prod.mk.inj hguest
  have hplain : (q.under none).PlainName := by
    intro name (hmem : q.asName = some name)
    obtain rfl := Option.some.inj (hname.symm.trans hmem)
    decide +kernel
  have hahead (n : Nat) (hn : (run {} layered).2.lastId < n) := hunforged.not_ahead hq hn
  obtain ⟨hselection, -⟩ :=
    Call.embedded_as_compiled (d := ⟨p, (run {} layered).2.lastId, []⟩) hmode hahead
  obtain ⟨e, text, hrun, hsource, hresolve⟩ := (hselection _ hcompile).1 none hplain
  refine ⟨p, q, e, text, hp, hq, hmode, hx, hahead, hplain, hcompile, hrun, hsource, ?_⟩
  have hnamed : (q.under none).nameFrom (run {} layered).2.lastId = "s" :=
    congrArg (Option.getD · _) hname
  rw [hresolve, hnamed]
  decide +kernel

end Session
end SqlBuilder
