import SqlBuilder.Proofs.Merging.Embedding
import SqlBuilder.Proofs.Renaming.Clauses

/-!
# Compiling queries that differ in their placeholders

Two queries match if they are the same but for placeholders in their clauses, related place by
place (`Query.Matches`). They then write matching statements or lack the same
(`Matches.written_aligned`), for nothing a statement depends on is a matter of placeholders: a list
is empty or not, and the column list that stands for all columns has none.

If related placeholders stand for the same value, the values disappear into the same marks or
literals, so the queries compile to the same (`Matches.compile_eq`). An insert with rows is the
exception, since the placeholders in its column list stay. Its data are the same, and so is its
text but for them (`Matches.insertRows`).
-/

namespace SqlBuilder

open Placeholder
open Binder (tokenOf)

/-- The same placeholder, or two generated ones. -/
def Renumbered (k l : String) : Prop := k = l ∨ ∃ i j, k = tokenOf i ∧ l = tokenOf j

/-- The placeholders stand for the same value. Up to the bound they are the same as well, beyond
it both are generated. -/
structure Renamed (bound : Nat) (b c : Bindings) (k l : String) : Prop where
  value : ∃ v, b.get? k = some v ∧ c.get? l = some v
  text : k = l ∨ ∃ i j, bound < i ∧ bound < j ∧ k = tokenOf i ∧ l = tokenOf j

/-- The same requirement on both sides, and what comes after it. -/
theorem Outcomes.require {α : Type} {R : α → α → Prop} {holds : Bool} {what : Requirement}
    {next next' : Unit → Except Failure α} (h : ∀ u, Outcomes R (next u) (next' u)) :
    Outcomes R (Query.require holds what >>= next) (Query.require holds what >>= next') := by
  cases holds with
  | true => exact h ()
  | false => exact .error _

namespace Query

variable {N : String → String → Prop} {q r : Query}

/-- The query without its clauses and its bindings. -/
def frame (q : Query) : Query :=
  { q with
    columns := []
    joins := []
    conditions := []
    assignments := []
    assignedAt := .empty
    orderBy := []
    groupBy := []
    distinct := false
    limit := none
    bindings := .empty }

/-- The queries are the same but for aligned texts in their clauses. -/
structure Matches (N : String → String → Prop) (q r : Query) : Prop where
  clauses : ∀ κ : Clause, κ.Aligned N q r
  frame : q.frame = r.frame
  source : Aligned N q.source r.source

/-! ## Statements -/

/-- Aligned texts, or the rows of both queries. -/
inductive AlignedWritten (N : String → String → Prop) (q r : Query) : Written → Written → Prop
  | template {s t : String} (h : Aligned N s t) : AlignedWritten N q r (.template s) (.template t)
  | rows : AlignedWritten N q r (.final q.insertRows) (.final r.insertRows)

/-- What is written unless a list is empty. -/
theorem aligned_unless_nil {ss ts us vs : List String} (h : List.Forall₂ (Aligned N) ss ts)
    (huv : List.Forall₂ (Aligned N) us vs) :
    List.Forall₂ (Aligned N) (if ss = [] then [] else us) (if ts = [] then [] else vs) := by
  cases h with
  | nil => exact .nil
  | cons _ _ =>
    rw [if_neg (List.cons_ne_nil _ _), if_neg (List.cons_ne_nil _ _)]
    exact huv

theorem aligned_listClause (keyword : String) (hkeyword : placeholders keyword = [])
    {ss ts : List String} (h : List.Forall₂ (Aligned N) ss ts) :
    List.Forall₂ (Aligned N) (listClause keyword ss) (listClause keyword ts) :=
  aligned_unless_nil h (.cons (.plain hkeyword) (.cons (.listed h) .nil))

namespace Matches

variable (h : q.Matches N r)
include h

theorem congr_frame {α : Type} (f : Query → α) (hf : ∀ p : Query, f p.frame = f p) : f q = f r := by
  rw [← hf, h.frame, hf]

theorem selection : Aligned N q.selection r.selection := by
  have hcolumns := Aligned.listed (h.clauses .columns).1
  have hdistinct : q.distinct = r.distinct := (h.clauses .paging).2
  unfold Query.selection
  rw [hdistinct]
  split
  · exact .lead (by decide) hcolumns
  · exact hcolumns

theorem conditionText : Aligned N q.conditionText r.conditionText := by
  have hconnective := h.congr_frame Query.connective fun _ => rfl
  unfold Query.conditionText
  rw [hconnective]
  refine .intercalate ?_ (h.clauses .conditions).1
  cases r.connective.getD .and <;> decide

theorem conditionClause : List.Forall₂ (Aligned N) q.conditionClause r.conditionClause :=
  aligned_unless_nil (h.clauses .conditions).1
    (.cons (.plain (placeholders_of_not_mem (by decide))) (.cons h.conditionText .nil))

theorem chosenColumns : List.Forall₂ (Aligned N) q.chosenColumns r.chosenColumns := by
  have hcolumns : Aligned N (listed q.columns) (listed r.columns) :=
    .listed (h.clauses .columns).1
  unfold Query.chosenColumns
  simp only [hcolumns.eq_iff placeholders_empty, hcolumns.eq_iff placeholders_star]
  split
  · exact .nil
  · exact .cons hcolumns .nil

/-- Matching queries write aligned statements. -/
theorem statementText (a : Action) : Aligned N (q.statementText a) (r.statementText a) := by
  have keyword (k : String) (hk : '{' ∉ k.toList := by decide) : Aligned N k k :=
    .plain (placeholders_of_not_mem hk)
  have hjoins := (h.clauses .joins).1
  have hset := Aligned.listed (h.clauses .assignments).1
  cases a with
  | select =>
    have hgroup := aligned_listClause "GROUP BY" (placeholders_of_not_mem (by decide))
      (h.clauses .grouping).1
    have horder := aligned_listClause "ORDER BY" (placeholders_of_not_mem (by decide))
      (h.clauses .ordering).1
    refine .spaced (List.rel_append (List.rel_append (List.rel_append (List.rel_append
      (List.rel_append ?_ hjoins) h.conditionClause) hgroup) horder) (h.clauses .paging).1)
    exact .cons (keyword "SELECT")
      (.cons h.selection (.cons (keyword "FROM") (.cons h.source .nil)))
  | insert =>
    have hmode := h.congr_frame Query.insertMode fun _ => rfl
    have hkeyword : Aligned N q.insertMode.keyword r.insertMode.keyword := by
      rw [hmode]
      cases r.insertMode <;> exact keyword _
    exact .spaced (.cons hkeyword (.cons (keyword "INTO") (.cons h.source (.cons (keyword "SET")
      (.cons hset .nil)))))
  | update =>
    refine .spaced (List.rel_append (List.rel_append ?_ hjoins) ?_)
    · exact .cons (keyword "UPDATE") (.cons h.source .nil)
    · exact .cons (keyword "SET")
        (.cons hset (.cons (keyword "WHERE") (.cons h.conditionText .nil)))
  | delete =>
    refine .spaced (List.rel_append (List.rel_append (List.rel_append (List.rel_append ?_
      h.chosenColumns) ?_) hjoins) ?_)
    · exact .cons (keyword "DELETE") .nil
    · exact .cons (keyword "FROM") (.cons h.source .nil)
    · exact .cons (keyword "WHERE") (.cons h.conditionText .nil)

/-- What is written of a kind of statement depends on which clauses are empty, and so the same is
lacking in both queries. -/
theorem write_aligned (a : Action) :
    Outcomes (AlignedWritten N q r) (q.write a) (r.write a) := by
  have hrows := h.congr_frame Query.rows fun _ => rfl
  have hempty {ss ts : List String} (h : List.Forall₂ (Aligned N) ss ts) :
      ss.isEmpty = ts.isEmpty := by
    cases h with
    | nil => rfl
    | cons _ _ => rfl
  have hset : q.assignments.isEmpty = r.assignments.isEmpty := hempty (h.clauses .assignments).1
  have hwhere : q.conditions.isEmpty = r.conditions.isEmpty := hempty (h.clauses .conditions).1
  have htext := h.statementText a
  cases a with
  | select => exact .ok (.template htext)
  | insert =>
    rw [Query.write, Query.write, hrows, hset]
    split
    · exact .require fun _ => .ok (.template htext)
    · exact .ok .rows
  | update =>
    rw [Query.write, Query.write, hset, hwhere]
    exact .require fun _ => .require fun _ => .ok (.template htext)
  | delete =>
    rw [Query.write, Query.write, hwhere]
    exact .require fun _ => .ok (.template htext)

theorem written_aligned : Outcomes (AlignedWritten N q r) q.written r.written := by
  have haction := h.congr_frame Query.action fun _ => rfl
  have hsource := h.congr_frame Query.hasSource fun _ => rfl
  unfold written
  rw [haction, hsource]
  cases r.action with
  | none => exact .error _
  | some a =>
    cases r.hasSource with
    | true => exact h.write_aligned a
    | false => exact .error _

end Matches

/-! ## Compiling -/

/-- Aligned texts come to the same if the placeholders in them stand for the same values. -/
theorem resolve_eq_of_aligned (hmode : q.boundParameters = r.boundParameters) {s t : String}
    (h : Aligned N s t)
    (hN : ∀ k l, N k l → ∃ v, q.bindings.get? k = some v ∧ r.bindings.get? l = some v) :
    q.resolve s = r.resolve t := by
  have hvalues : (placeholders s).map q.bindings.get? = (placeholders t).map r.bindings.get? ∧
      q.Stores (placeholders s) ∧ r.Stores (placeholders t) := by
    unfold Stores
    generalize placeholders s = ks, placeholders t = ls, h.related = hrelated
    induction hrelated with
    | nil => exact ⟨rfl, List.forall_mem_nil _, List.forall_mem_nil _⟩
    | cons hkl _ ih =>
      obtain ⟨v, hk, hl⟩ := hN _ _ hkl
      obtain ⟨hmap, hks, hls⟩ := ih
      exact ⟨by rw [List.map_cons, List.map_cons, hk, hl, hmap],
        List.forall_mem_cons.2 ⟨by rw [hk]; rfl, hks⟩,
        List.forall_mem_cons.2 ⟨by rw [hl]; rfl, hls⟩⟩
  obtain ⟨hmap, hs, ht⟩ := hvalues
  have hfill : fill q.standIn (template s) = fill r.standIn (template t) := by
    refine h.fill_eq fun k l hkl => ?_
    obtain ⟨v, hk, hl⟩ := hN k l hkl
    rw [standIn, standIn, hmode, hk, hl]
    rfl
  have hdata : q.contributed (placeholders s) = r.contributed (placeholders t) := by
    have hid := congrArg (List.filterMap id) hmap
    rw [List.filterMap_map, List.filterMap_map] at hid
    unfold contributed
    rw [hmode]
    split
    · exact hid
    · rfl
  rw [resolve_eq_ok_iff.2 ⟨hs, rfl⟩, resolve_eq_ok_iff.2 ⟨ht, rfl⟩, hfill, hdata]

theorem Matches.compile_eq (h : q.Matches N r) (hrows : ¬ q.WritesRows)
    (hN : ∀ k l, N k l → ∃ v, q.bindings.get? k = some v ∧ r.bindings.get? l = some v) :
    q.compile = r.compile := by
  rw [Query.compile_eq, Query.compile_eq]
  have hwritten := h.written_aligned
  generalize hq : q.written = w at hwritten ⊢
  generalize r.written = w' at hwritten ⊢
  cases hwritten with
  | error f => rfl
  | ok haligned =>
    cases haligned with
    | template hst =>
      exact resolve_eq_of_aligned (h.congr_frame Query.boundParameters fun _ => rfl) hst hN
    | rows =>
      rcases written_eq_ok hq with ⟨_, -, ⟨⟩⟩ | ⟨hq, -⟩
      exact absurd hq hrows

/-! ## Rows -/

/-- A cell is found under aligned names alike, if placeholders in the names of the fields are
related to nothing else. -/
theorem get?_eq_of_aligned {f : Fields} (hf : ∀ key ∈ f.keys, ∀ k ∈ placeholders key,
    ∀ l, (N k l → k = l) ∧ (N l k → l = k)) {c d : String} (h : Aligned N c d) :
    f.get? c = f.get? d := by
  have hnone {c : String} (hc : c ∉ f.keys) : f.get? c = none := Entries.get?_eq_none_iff.2 hc
  by_cases hc : c ∈ f.keys
  · rw [h.eq_of_left fun k hk l => (hf c hc k hk l).1]
  · by_cases hd : d ∈ f.keys
    · rw [h.eq_of_right fun l hl k => (hf d hd l hl k).2]
    · rw [hnone hc, hnone hd]

/-- Matching queries insert the same rows. Their column lists are aligned. -/
theorem Matches.insertRows (h : q.Matches N r) (hN : ∀ k l, N k l → Renumbered k l)
    (hkeys : ∀ f ∈ q.rows, ∀ key ∈ f.keys, ∀ k ∈ placeholders key,
      ∀ l, (N k l → k = l) ∧ (N l k → l = k)) :
    q.insertRows.data = r.insertRows.data ∧
      Aligned Renumbered q.insertRows.query r.insertRows.query := by
  have hrows := h.congr_frame Query.rows fun _ => rfl
  have hcells : q.rows.map (cells q.columns) = r.rows.map (cells r.columns) := by
    rw [← hrows]
    refine List.map_congr_left fun f hf => ?_
    have hcells : List.Forall₂ Eq (cells q.columns f) (cells r.columns f) :=
      List.rel_map (fun c d hcd => congrArg cell (get?_eq_of_aligned (hkeys f hf) hcd))
        (h.clauses .columns).1
    rwa [List.forall₂_eq_eq_eq] at hcells
  have hmode := h.congr_frame Query.insertMode fun _ => rfl
  have hsame (s : String) : Aligned Renumbered s s := .refl fun _ _ => .inl rfl
  refine ⟨by rw [Query.insertRows, Query.insertRows, hcells], ?_⟩
  rw [Query.insertRows, Query.insertRows, hcells, hmode]
  refine .spaced (List.rel_append (List.rel_append ?_ ?_) ?_)
  · exact .cons (hsame _) (.cons (h.source.mono fun k _ l => hN k l) (.cons (hsame _) .nil))
  · exact h.chosenColumns.imp fun _ _ hst => hst.mono fun k _ l => hN k l
  · exact .cons (hsame _) (.cons (hsame _) .nil)

end Query
end SqlBuilder
