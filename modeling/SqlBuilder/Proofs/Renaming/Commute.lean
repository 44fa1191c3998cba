import SqlBuilder.Proofs.Renaming.Compile
import SqlBuilder.Proofs.Renaming.Plain

/-!
# Clauses commute

Two calls on different clauses can be made in either order, wherever the counter stands
(`Session.clauses_commute`). The queries they lead to are not the same, since the calls generate
their placeholders in turn. They match all the same:

* a call does the same to its clause wherever the counter stands, so what it adds in one order and
  in the other differs in the numbers of its placeholders only, and these stand for the same values
  (`Call.aligned_inTurn`);
* every other clause is left alone.

Matching queries compile to the same result unless they insert rows. An insert with rows keeps the
placeholders of its column list in the text, so it shows which call came first
(`Session.columns_show_order`).
-/

namespace SqlBuilder

open Binder (tokenOf)

namespace Call

/-- What a call makes of a query, with the counter at the given number. -/
def after (c : Call Query) (q : Query) (lastId : Nat) : Draft := (c.run ⟨q, lastId, []⟩).2

theorem rest_after {c : Call Query} {κ : Clause} (h : c.clause? = some κ) (q : Query)
    (lastId : Nat) : κ.rest (c.after q lastId).query = κ.rest q :=
  leaves_rest h _

/-- A call on a clause that refers to no query takes nothing over. -/
theorem grows_after {c : Call Query} {κ : Clause} (hκ : c.clause? = some κ)
    (hnone : c.queries = []) (q : Query) (lastId : Nat) :
    ∃ names, Binder.Grows (fun _ _ => False) ⟨q.bindings, lastId, []⟩ names
      (c.after q lastId).binder := by
  refine run_grows_alone hnone ?_ ⟨q, lastId, []⟩
  rintro name v rfl
  cases hκ

/-- The query after two calls, one after the other, with the counter at the given number before. -/
def inTurn (c c' : Call Query) (q : Query) (lastId : Nat) : Query :=
  (c'.after (c.after q lastId).query (c.after q lastId).lastId).query

end Call

/-! ## A call on a clause -/

namespace Query.Sound

variable {lastId : Nat} {q : Query}

/-- A placeholder with a value is not ahead of the counter. -/
theorem ne_tokenOf (h : q.Sound lastId) {k : String} (hk : (q.bindings.get? k).isSome) {i : Nat}
    (hi : lastId < i) : k ≠ tokenOf i := by
  rintro rfl
  rw [h.behind i hi] at hk
  cases hk

variable {c : Call Query} {κ : Clause}

/-- Placeholders keep their values. -/
theorem get?_after (h : q.Sound lastId) (hκ : c.clause? = some κ) (hnone : c.queries = [])
    {k : String} {v : Value} (hk : q.bindings.get? k = some v) :
    (c.after q lastId).query.bindings.get? k = some v := by
  obtain ⟨names, hgrows⟩ := Call.grows_after hκ hnone q lastId
  exact (hgrows.get?_eq fun i => h.ne_tokenOf (Option.isSome_of_eq_some hk)).trans hk

theorem after (h : q.Sound lastId) (hc : c.Plain) (hnone : c.queries = []) :
    (c.after q lastId).query.Sound (c.after q lastId).lastId :=
  h.run hc fun _ hp => absurd (hnone ▸ hp) List.not_mem_nil

end Query.Sound

/-! ## Two calls -/

namespace Call

/-- Two calls on different clauses, which hand over no placeholder and refer to no query. -/
structure Apart (c c' : Call Query) (κ κ' : Clause) : Prop where
  left : c.Plain ∧ c.queries = [] ∧ c.clause? = some κ
  right : c'.Plain ∧ c'.queries = [] ∧ c'.clause? = some κ'
  ne : κ ≠ κ'

theorem Apart.symm {c c' : Call Query} {κ κ' : Clause} (h : c.Apart c' κ κ') : c'.Apart c κ' κ :=
  ⟨h.right, h.left, h.ne.symm⟩

variable {c c' : Call Query} {κ κ' : Clause} {bound m n : Nat} {q : Query}

/-- What a query holds before two calls it holds afterwards. -/
theorem Apart.get?_inTurn (h : c.Apart c' κ κ') (hq : q.Sound bound) (hm : bound ≤ m) {k : String}
    {v : Value} (hk : q.bindings.get? k = some v) :
    (c.inTurn c' q m).bindings.get? k = some v := by
  have hqm := hq.mono hm
  exact (hqm.after h.left.1 h.left.2.1).get?_after h.right.2.2 h.right.2.1
    (hqm.get?_after h.left.2.2 h.left.2.1 hk)

/-- The same placeholder stands for the same value after the calls in either order. -/
theorem Apart.renamed_self (h : c.Apart c' κ κ') (hq : q.Sound bound) (hm : bound ≤ m)
    (hn : bound ≤ n) {k : String} (hk : (q.bindings.get? k).isSome) :
    Renamed bound (c.inTurn c' q m).bindings (c'.inTurn c q n).bindings k k := by
  obtain ⟨v, hv⟩ := Option.isSome_iff_exists.1 hk
  exact ⟨⟨v, h.get?_inTurn hq hm hv, h.symm.get?_inTurn hq hn hv⟩, .inl rfl⟩

/-- The first call finds its clause as it was before the second one, and does the same to it. -/
theorem Apart.shifted (h : c.Apart c' κ κ') (hq : q.Sound bound) (hm : bound ≤ m)
    (hn : bound ≤ n) :
    Draft.Shifted κ bound m (c'.after q n).lastId (c.after q m)
      (c.after (c'.after q n).query (c'.after q n).lastId) := by
  have hafter := (hq.mono hn).after h.right.1 h.right.2.1
  refine (run_shifts h.left.2.2 h.left.2.1 (Bindings.covers_append.1 h.left.1.1).1 ?_).2
  refine ⟨⟨⟨0, rfl, rfl⟩, fun i => ?_⟩, ?_⟩
  · exact ((hq.mono hm).behind _ (by omega)).trans (hafter.behind _ (by omega)).symm
  · refine Clause.Aligned.congr_right h.ne (rest_after h.right.2.2 _ _) ?_
    exact Clause.aligned_refl fun s hs k hk => .kept rfl fun i =>
      hq.ne_tokenOf (hq.closed.texts s (Clause.mem_texts hs) k hk)

/-- The texts of the first call are aligned, whether it was made first or last. -/
theorem Apart.aligned_inTurn (h : c.Apart c' κ κ') (hq : q.Sound bound) (hm : bound ≤ m)
    (hn : bound ≤ n) :
    κ.Aligned (Renamed bound (c.inTurn c' q m).bindings (c'.inTurn c q n).bindings)
      (c.inTurn c' q m) (c'.inTurn c q n) := by
  have hfirst := (hq.mono hm).after h.left.1 h.left.2.1
  obtain ⟨hbinder, hclause⟩ := h.shifted hq hm hn
  refine Clause.Aligned.congr_left h.ne (rest_after h.right.2.2 _ _) ?_
  refine hclause.mono fun s hs k hk l hkl => ?_
  have hsome := hfirst.closed.texts s (Clause.mem_texts hs) k hk
  obtain ⟨v, hv⟩ := Option.isSome_iff_exists.1 hsome
  have hleft := hfirst.get?_after h.right.2.2 h.right.2.1 hv
  cases hkl with
  | kept heq hsettled =>
    subst heq
    obtain ⟨names, hgrows⟩ := grows_after h.left.2.2 h.left.2.1 q m
    have hold : q.bindings.get? k = some v :=
      (hgrows.get?_eq fun i hi => hsettled i (Nat.lt_of_le_of_lt hm hi)).symm.trans hv
    exact h.renamed_self hq hm hn (Option.isSome_of_eq_some hold)
  | fresh hfresh =>
    obtain ⟨i⟩ := hfresh
    have hle : n ≤ (c'.after q n).lastId := c'.le_lastId_run ⟨q, n, []⟩
    exact ⟨⟨v, hleft, (hbinder.values i).symm.trans hv⟩,
      .inr ⟨_, _, by omega, by omega, rfl, rfl⟩⟩

theorem Apart.frame_inTurn (h : c.Apart c' κ κ') (q : Query) (m : Nat) :
    (c.inTurn c' q m).frame = q.frame := by
  have hframe (κ : Clause) {p r : Query} (hrest : κ.rest p = κ.rest r) : p.frame = r.frame := by
    cases κ <;> exact (congrArg Query.frame hrest :)
  exact (hframe κ' (rest_after h.right.2.2 _ _)).trans (hframe κ (rest_after h.left.2.2 _ _))

/-- The calls lead to matching queries in either order. -/
theorem Apart.matches_inTurn (h : c.Apart c' κ κ') (hq : q.Sound bound) (hm : bound ≤ m)
    (hn : bound ≤ n) :
    (c.inTurn c' q m).Matches
      (Renamed bound (c.inTurn c' q m).bindings (c'.inTurn c q n).bindings)
      (c'.inTurn c q n) := by
  have hself (s : String) (hs : s ∈ q.texts) (k : String) (hk : k ∈ placeholders s) :
      Renamed bound (c.inTurn c' q m).bindings (c'.inTurn c q n).bindings k k :=
    h.renamed_self hq hm hn (hq.closed.texts s hs k hk)
  refine ⟨fun κ₀ => ?_, (h.frame_inTurn q m).trans (h.symm.frame_inTurn q n).symm, ?_⟩
  · by_cases hκ : κ₀ = κ
    · rw [hκ]
      exact h.aligned_inTurn hq hm hn
    · by_cases hκ' : κ₀ = κ'
      · rw [hκ']
        refine (h.symm.aligned_inTurn hq hn hm).flip.mono fun _ _ k _ l hkl => ?_
        obtain ⟨⟨v, hl, hk⟩, htext⟩ := hkl
        refine ⟨⟨v, hk, hl⟩, htext.imp Eq.symm ?_⟩
        exact fun ⟨i, j, hi, hj, hl, hk⟩ => ⟨j, i, hj, hi, hk, hl⟩
      · have hold := Clause.aligned_refl (κ := κ₀) fun s hs => hself s (Clause.mem_texts hs)
        exact (((hold.congr_left hκ (rest_after h.left.2.2 _ _)).congr_left hκ'
          (rest_after h.right.2.2 _ _)).congr_right hκ' (rest_after h.right.2.2 _ _)).congr_right hκ
            (rest_after h.left.2.2 _ _)
  · have hsource {r : Query} (hframe : r.frame = q.frame) : r.source = q.source :=
      (congrArg Query.source hframe :)
    rw [hsource (h.frame_inTurn q m), hsource (h.symm.frame_inTurn q n)]
    refine .refl fun k hk => ?_
    rw [Query.placeholders_source] at hk
    obtain ⟨s, hs, hk⟩ := List.mem_flatMap.1 hk
    rcases Query.mem_texts_of_mem_sourceFragments hs with hs | rfl
    · exact hself s hs k hk
    · cases hk

end Call

/-! ## What the queries compile to -/

namespace Query.Matches

variable {N : String → String → Prop} {q r : Query}

/-- Queries match with bound parameters if they match without, and the other way round. -/
theorem setMode (h : q.Matches N r) (marks : Bool) :
    Matches N { q with boundParameters := marks } { r with boundParameters := marks } where
  clauses κ := by
    have hκ := h.clauses κ
    cases κ <;> exact hκ
  frame := (congrArg (fun p => { p with boundParameters := marks }) h.frame :)
  source := h.source

end Query.Matches

/-- Whether rows are inserted is not a matter of the clauses. -/
theorem Query.writesRows_iff_of_frame {q r : Query} (h : r.frame = q.frame) (marks : Bool) :
    Query.WritesRows { r with boundParameters := marks } ↔ q.WritesRows := by
  have haction : r.action = q.action := (congrArg Query.action h :)
  have hsource : r.hasSource = q.hasSource := (congrArg Query.hasSource h :)
  have hrows : r.rows = q.rows := (congrArg Query.rows h :)
  constructor
  · rintro ⟨ha, hs, hr⟩
    exact ⟨haction ▸ ha, hsource ▸ hs, hrows ▸ hr⟩
  · rintro ⟨ha, hs, hr⟩
    exact ⟨haction.trans ha, hsource.trans hs, hrows.trans_ne hr⟩

namespace Session

/-- **Clauses commute.** In a script without placeholders of the caller's, let two calls be on
different clauses and refer to no query. Made in either order on a query that the script leads to,
with any number of names generated in between, they lead to queries that compile to the same
result, with bound parameters and with literals, unless the query inserts rows. If it does, both
queries compile, to the same data and to texts that differ in generated placeholders only. -/
theorem clauses_commute {s : Session} (hs : s.queries = .empty) {cs : List Command}
    (hcs : ∀ c ∈ cs, c.Plain) {name : String} {q : Query}
    (hq : (s.run cs).2.queries.get? name = some q) {c c' : Call Query} {κ κ' : Clause}
    (h : c.Apart c' κ κ') {m n : Nat} (hm : (s.run cs).2.lastId ≤ m)
    (hn : (s.run cs).2.lastId ≤ n) (marks : Bool) :
    (¬ q.WritesRows →
      Query.compile { c.inTurn c' q m with boundParameters := marks } =
        Query.compile { c'.inTurn c q n with boundParameters := marks }) ∧
      (q.WritesRows → ∃ p p',
        Query.compile { c.inTurn c' q m with boundParameters := marks } = .ok p ∧
          Query.compile { c'.inTurn c q n with boundParameters := marks } = .ok p' ∧
            p.data = p'.data ∧ Aligned Renumbered p.query p'.query) := by
  have hsound : q.Sound (s.run cs).2.lastId := sound_run hs hcs name q hq
  have hmatches := (h.matches_inTurn hsound hm hn).setMode marks
  have hleft := Query.writesRows_iff_of_frame (h.frame_inTurn q m) marks
  have hright := Query.writesRows_iff_of_frame (h.symm.frame_inTurn q n) marks
  refine ⟨fun hrows => ?_, fun hrows => ?_⟩
  · exact hmatches.compile_eq (mt hleft.1 hrows) fun k l hkl => hkl.value
  · have hsame : (c.inTurn c' q m).rows = q.rows := (congrArg Query.rows (h.frame_inTurn q m) :)
    have hkeys : ∀ f ∈ (c.inTurn c' q m).rows, ∀ key ∈ f.keys, ∀ k ∈ placeholders key, ∀ i,
        (s.run cs).2.lastId < i → k ≠ tokenOf i := by
      rw [hsame]
      exact fun f hf key hkey k hk i =>
        hsound.ne_tokenOf (hsound.keys key (List.mem_flatMap.2 ⟨f, hf, hkey⟩) k hk)
    obtain ⟨hdata, htext⟩ := hmatches.insertRows
      (fun k l hkl => hkl.text.imp_right fun ⟨i, j, _, _, hk, hl⟩ => ⟨i, j, hk, hl⟩)
      fun f hf key hkey k hk l => by
        have hold := hkeys f hf key hkey k hk
        exact ⟨fun hkl => hkl.text.resolve_right fun ⟨i, _, hi, _, heq, _⟩ => hold i hi heq,
          fun hlk => hlk.text.resolve_right fun ⟨_, j, _, hj, _, heq⟩ => hold j hj heq⟩
    exact ⟨_, _, (hleft.2 hrows).compile_eq, (hright.2 hrows).compile_eq, hdata, htext⟩

/-- A column and a condition, each with a value of its own. -/
def addFive {Q : Type} : Call Q := .addColumn (.value (.int 5)) false

def whereTwo {Q : Type} : Call Q := .whereEq (.raw "x") (.value (.int 2))

theorem addFive_apart_whereTwo : addFive.Apart whereTwo .columns .conditions where
  left := ⟨⟨by decide, fun _ h => nomatch h⟩, rfl, rfl⟩
  right := ⟨⟨by decide, fun _ h => nomatch h⟩, rfl, rfl⟩
  ne := by decide

/-- A selection with a condition of its own. -/
def search : List Command :=
  [.create "q" (.actingOn .select "t"), .call "q" (.whereEq (.raw "a") (.value (.int 1)))]

theorem clauses_commute_search :
    ({} : Session).queries = .empty ∧ (∀ c ∈ search, c.Plain) ∧
      addFive.Apart whereTwo .columns .conditions ∧ (run {} search).2.lastId ≤ 1 ∧
        (run {} search).2.lastId ≤ 7 ∧
      ∃ q, (run {} search).2.queries.get? "q" = some q ∧ ¬ q.WritesRows ∧
        (addFive.inTurn whereTwo q 1).conditions = ["a = {{binding1}}", "x = {{binding3}}"] ∧
        (whereTwo.inTurn addFive q 7).conditions = ["a = {{binding1}}", "x = {{binding8}}"] ∧
        Query.compile { addFive.inTurn whereTwo q 1 with boundParameters := false } =
          Query.compile { whereTwo.inTurn addFive q 7 with boundParameters := false } ∧
        Query.compile { addFive.inTurn whereTwo q 1 with boundParameters := false } =
          .ok ⟨"SELECT 5 FROM `t` WHERE a = 1 AND x = 2", []⟩ := by
  have hplain : ∀ c ∈ search, c.Plain := by
    simp only [search, List.forall_mem_cons]
    exact ⟨placeholders_of_not_mem (by decide), ⟨by decide, fun _ h => nomatch h⟩,
      List.forall_mem_nil _⟩
  have hquery : ((run {} search).2.queries.get? "q").map (fun q =>
      (q.action, (addFive.inTurn whereTwo q 1).conditions,
        (whereTwo.inTurn addFive q 7).conditions,
        Query.compile { addFive.inTurn whereTwo q 1 with boundParameters := false })) =
      some (some .select, ["a = {{binding1}}", "x = {{binding3}}"],
        ["a = {{binding1}}", "x = {{binding8}}"],
        .ok ⟨"SELECT 5 FROM `t` WHERE a = 1 AND x = 2", []⟩) := by decide +kernel
  have hfirst : (run {} search).2.lastId ≤ 1 := by decide +kernel
  have hlater : (run {} search).2.lastId ≤ 7 := by decide +kernel
  obtain ⟨q, hq, hquery⟩ := Option.map_eq_some_iff.1 hquery
  simp only [Prod.mk.injEq] at hquery
  obtain ⟨haction, hconditions, hconditions', hcompile⟩ := hquery
  have hrows : ¬ q.WritesRows := fun h => by cases haction.symm.trans h.action
  have hsame := clauses_commute rfl hplain hq addFive_apart_whereTwo hfirst hlater false
  exact ⟨rfl, hplain, addFive_apart_whereTwo, hfirst, hlater, q, hq, hrows, hconditions,
    hconditions', hsame.1 hrows, hcompile⟩

/-- An insert with a row. -/
def insertOne : List Command :=
  [.create "q" (.inserting .insert), .call "q" (.table "t" none),
    .call "q" (.columns [.name "a"]), .call "q" (.addRow ⟨[("a", .value (.int 1))]⟩)]

/-- The placeholder of a column stays in an insert with rows, and its number shows that the column
was added first. -/
theorem columns_show_order :
    (∀ c ∈ insertOne, c.Plain) ∧ addFive.Apart whereTwo .columns .conditions ∧
      (∀ o ∈ (run {} (insertOne ++ [.call "q" addFive, .call "q" whereTwo])).1,
        o.answer.isOk = true) ∧
      (∀ o ∈ (run {} (insertOne ++ [.call "q" whereTwo, .call "q" addFive])).1,
        o.answer.isOk = true) ∧
      ((run {} (insertOne ++ [.call "q" addFive, .call "q" whereTwo])).2.queries.get? "q").map
          Query.compile ≠
        ((run {} (insertOne ++ [.call "q" whereTwo, .call "q" addFive])).2.queries.get? "q").map
          Query.compile := by
  refine ⟨?_, addFive_apart_whereTwo, by decide +kernel, by decide +kernel, by decide +kernel⟩
  simp only [insertOne, List.forall_mem_cons]
  exact ⟨trivial, ⟨by decide, fun _ h => nomatch h⟩, ⟨by decide, fun _ h => nomatch h⟩,
    ⟨by decide, fun _ h => nomatch h⟩, List.forall_mem_nil _⟩

end Session
end SqlBuilder
