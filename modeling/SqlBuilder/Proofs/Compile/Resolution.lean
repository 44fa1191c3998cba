import SqlBuilder.Proofs.Compile.Complete
import SqlBuilder.Proofs.Placeholder.Leftmost

/-!
# Resolving placeholders

What compiling makes of the text of a complete statement. The text has one leftmost cut, and every
placeholder of the cut is either stored or not:

* if one is not, compiling fails at the first of them (`resolve_of_missing`);
* if all are, marks or literals are woven into the gaps of the cut (`resolve_of_stored`).

The setting of the query decides only what is woven in. This makes `resolves_leftmost_cut` and
`literals_agree_with_marks` two readings of the same case distinction. A literal is put into its
gap as it is: nothing scans the text again, whatever the literal itself looks like.
-/

namespace SqlBuilder.Query

open Placeholder

/-- The value of every placeholder is stored. -/
def Stores (q : Query) (tokens : List String) : Prop :=
  ∀ t ∈ tokens, (q.bindings.get? t).isSome

theorem resolve_of_missing {q : Query} {sql t : String} {before after : List String}
    (h : tokens (template sql) = before ++ t :: after) (hbefore : q.Stores before)
    (ht : q.bindings.get? t = none) : q.resolve sql = .error (.unbound t) := by
  have hfind : (tokens (template sql)).find? (fun k => (q.bindings.get? k).isNone) = some t := by
    rw [List.find?_eq_some_iff_append]
    refine ⟨by rw [ht]; rfl, before, after, h, fun u hu => ?_⟩
    obtain ⟨v, hv⟩ := Option.isSome_iff_exists.1 (hbefore u hu)
    rw [hv]
    rfl
  unfold resolve
  simp only [hfind]

theorem Stores.exists_values {q : Query} {ts : List String} (h : q.Stores ts) :
    ∃ vs : List Value, ts.map q.bindings.get? = vs.map some := by
  induction ts with
  | nil => exact ⟨[], rfl⟩
  | cons t ts ih =>
    obtain ⟨v, hv⟩ := Option.isSome_iff_exists.1 (h t (by simp))
    obtain ⟨vs, hvs⟩ := ih fun u hu => h u (by simp [hu])
    exact ⟨v :: vs, by rw [List.map_cons, hv, hvs, List.map_cons]⟩

/-- What is woven into the gaps of the statement for the given values. -/
def woven (q : Query) (vs : List Value) : List String :=
  if q.boundParameters then vs.map fun _ => "?" else vs.map Value.literal

/-- What is handed out beside the text. -/
def handedOut (q : Query) (vs : List Value) : List Value := if q.boundParameters then vs else []

theorem map_of_map_eq {α : Type} {q : Query} {ts : List String} {vs : List Value}
    (h : ts.map q.bindings.get? = vs.map some) {f : String → α} {g : Value → α}
    (hfg : ∀ k v, q.bindings.get? k = some v → f k = g v) : ts.map f = vs.map g := by
  induction ts generalizing vs with
  | nil =>
    cases vs with
    | nil => rfl
    | cons v vs => cases h
  | cons t ts ih =>
    cases vs with
    | nil => cases h
    | cons v vs =>
      rw [List.map_cons, List.map_cons, List.cons.injEq] at h
      rw [List.map_cons, List.map_cons, hfg t v h.1, ih h.2]

theorem resolve_of_stored {q : Query} {sql : String} {vs : List Value}
    (h : (tokens (template sql)).map q.bindings.get? = vs.map some) :
    q.resolve sql = .ok ⟨(cutOf (template sql)).weave (q.woven vs), q.handedOut vs⟩ := by
  have hfind : (tokens (template sql)).find? (fun k => (q.bindings.get? k).isNone) = none := by
    rw [List.find?_eq_none]
    intro t ht
    have hmem : q.bindings.get? t ∈ vs.map some := h ▸ List.mem_map_of_mem ht
    obtain ⟨v, -, hv⟩ := List.mem_map.1 hmem
    simp [← hv]
  have hfill (f : String → String) (g : Value → String)
      (hfg : ∀ k v, q.bindings.get? k = some v → f k = g v) :
      fill f (template sql) = (cutOf (template sql)).weave (vs.map g) := by
    rw [← map_of_map_eq h hfg, ← tokens_cutOf, Cut.weave_map_tokens, fill_cutOf]
  have hdata : (tokens (template sql)).filterMap q.bindings.get? = vs := by
    have hid := congrArg (List.filterMap id) h
    simpa [List.filterMap_map] using hid
  unfold resolve woven handedOut
  simp only [hfind]
  by_cases hb : q.boundParameters
  · rw [if_pos hb, if_pos hb, if_pos hb, hdata]
    rw [hfill _ (fun _ => "?") fun _ _ _ => rfl]
  · rw [if_neg hb, if_neg hb, if_neg hb]
    rw [hfill _ Value.literal fun k v hk => by rw [hk]; rfl]

/-- Where not every placeholder is stored, there is a first one that is not. -/
theorem exists_first_missing {q : Query} {ts : List String} (h : ¬ q.Stores ts) :
    ∃ before t after, ts = before ++ t :: after ∧ q.Stores before ∧
      q.bindings.get? t = none := by
  induction ts with
  | nil => exact absurd (fun t ht => by cases ht) h
  | cons t ts ih =>
    cases ht : q.bindings.get? t with
    | none => exact ⟨[], t, ts, rfl, (fun u hu => by cases hu), ht⟩
    | some v =>
      have hts : ¬ q.Stores ts := fun hts => h fun u hu => by
        rcases List.mem_cons.1 hu with rfl | hu
        · rw [ht]; rfl
        · exact hts u hu
      obtain ⟨before, u, after, rfl, hbefore, hu⟩ := ih hts
      refine ⟨t :: before, u, after, rfl, fun w hw => ?_, hu⟩
      rcases List.mem_cons.1 hw with rfl | hw
      · rw [ht]; rfl
      · exact hbefore w hw

/-! ## Bound parameters -/

/-- **Resolution is exact.** With bound parameters the text of a complete statement has one
leftmost cut. If a placeholder of the cut is not stored, compiling fails at the first such one.
If all are stored, the compiled text is the text of the statement with one mark in the place of
every placeholder, the data are the values of the placeholders in order, and no placeholder is
left in the compiled text. -/
theorem resolves_leftmost_cut {q : Query} {a : Action} (hq : q.Complete a)
    (hb : q.boundParameters = true) :
    ∃ cut : Cut, (cut.Leftmost ∧ cut.text = q.statementText a) ∧
      (∀ other : Cut, other.Leftmost → other.text = q.statementText a → other = cut) ∧
      (∀ before t after, cut.tokens = before ++ t :: after → q.Stores before →
        q.bindings.get? t = none → q.compile = .error (.unbound t)) ∧
      (q.Stores cut.tokens → ∃ c : Compiled, q.compile = .ok c ∧
        c.query = cut.fill (fun _ => "?") ∧ c.data.map some = cut.tokens.map q.bindings.get? ∧
        ∀ i, ¬ Begins (c.query.toList.drop i)) := by
  have hcut := leftmost_cutOf (q.statementText a)
  refine ⟨cutOf (template (q.statementText a)), ⟨hcut, text_cutOf _⟩, ?_, ?_, ?_⟩
  · intro other hother htext
    exact hother.unique hcut (by rw [htext, text_cutOf])
  · intro before t after h hbefore ht
    rw [tokens_cutOf] at h
    rw [hq.compile_eq, resolve_of_missing h hbefore ht]
  · intro hstores
    obtain ⟨vs, hvs⟩ := hstores.exists_values
    have hfill : (cutOf (template (q.statementText a))).weave (q.woven vs) =
        (cutOf (template (q.statementText a))).fill fun _ => "?" := by
      rw [woven, if_pos hb, ← map_of_map_eq hvs (f := fun _ => "?") fun _ _ _ => rfl,
        Cut.weave_map_tokens]
    rw [tokens_cutOf] at hvs ⊢
    refine ⟨_, hq.compile_eq.trans (resolve_of_stored hvs), hfill, ?_, fun i => ?_⟩
    · rw [handedOut, if_pos hb, hvs]
    · rw [hfill]
      exact hcut.marked i

/-- A query with a brace too many, a placeholder without a name, and a value that looks like a
placeholder. -/
def bracedQuery : Query where
  action := some .select
  tableName := some "t"
  conditions := ["a = {{{x}}} OR b = {{x}} OR c = {{}} OR d = '?'"]
  bindings := Bindings.put (Bindings.put .empty "x" (.text "{{x}}?'")) "" (.int 3)

theorem bracedQuery_compile : bracedQuery.compile =
    .ok ⟨"SELECT * FROM `t` WHERE a = {?} OR b = ? OR c = ? OR d = '?'",
      [.text "{{x}}?'", .text "{{x}}?'", .int 3]⟩ := by
  decide +kernel

theorem bracedQuery_resolves :
    bracedQuery.Complete .select ∧ bracedQuery.boundParameters = true ∧
      ∃ cut : Cut, (cut.Leftmost ∧ cut.text = bracedQuery.statementText .select) ∧
        cut.tokens = ["{{x}}", "{{x}}", "{{}}"] ∧ ∃ c : Compiled, bracedQuery.compile = .ok c ∧
          c = ⟨"SELECT * FROM `t` WHERE a = {?} OR b = ? OR c = ? OR d = '?'",
            [.text "{{x}}?'", .text "{{x}}?'", .int 3]⟩ ∧
          c.query = cut.fill (fun _ => "?") ∧
          c.data.map some = cut.tokens.map bracedQuery.bindings.get? ∧
          ∀ i, ¬ Begins (c.query.toList.drop i) := by
  have hq : bracedQuery.Complete .select := ⟨rfl, by decide, trivial⟩
  obtain ⟨cut, hcut, hunique, -, hstored⟩ := resolves_leftmost_cut hq rfl
  have htokens : cut.tokens = ["{{x}}", "{{x}}", "{{}}"] := by
    rw [← hunique _ (leftmost_cutOf _) (text_cutOf _), tokens_cutOf]
    decide +kernel
  have hstores : bracedQuery.Stores cut.tokens := by
    rw [htokens]
    unfold Stores
    decide +kernel
  obtain ⟨c, hc, hresolved⟩ := hstored hstores
  exact ⟨hq, rfl, cut, hcut, htokens, c, hc, Except.ok.inj (hc.symm.trans bracedQuery_compile),
    hresolved⟩

/-! ## Literals -/

/-- The query with every value left to a mark. -/
def withMarks (q : Query) : Query := { q with boundParameters := true }

theorem written_withLiterals (q : Query) : q.withLiterals.written = q.withMarks.written := rfl

theorem resolve_error_iff (q : Query) (sql : String) (f : Failure) :
    q.withLiterals.resolve sql = .error f ↔ q.withMarks.resolve sql = .error f := by
  by_cases h : q.Stores (tokens (template sql))
  · obtain ⟨vs, hvs⟩ := h.exists_values
    rw [resolve_of_stored (q := q.withLiterals) hvs, resolve_of_stored (q := q.withMarks) hvs]
    constructor <;> intro hf <;> cases hf
  · obtain ⟨before, t, after, hts, hbefore, ht⟩ := exists_first_missing h
    rw [resolve_of_missing (q := q.withLiterals) hts hbefore ht,
      resolve_of_missing (q := q.withMarks) hts hbefore ht]

theorem literalText_eq_error_iff (q : Query) (f : Failure) :
    q.literalText = .error f ↔ q.withMarks.compile = .error f := by
  have hmap : q.literalText = .error f ↔ q.withLiterals.compile = .error f := by
    rw [literalText]
    cases q.withLiterals.compile <;> simp [Except.map]
  rw [hmap, compile_eq, compile_eq, written_withLiterals]
  cases q.withMarks.written with
  | error g => rfl
  | ok w =>
    cases w with
    | template sql => exact resolve_error_iff q sql f
    | final compiled => rfl

theorem WritesRows.compile_withLiterals {q : Query} (h : q.WritesRows) :
    q.withLiterals.compile = q.withMarks.compile := by
  have hliterals : q.withLiterals.WritesRows := ⟨h.action, h.source, h.rows⟩
  have hmarks : q.withMarks.WritesRows := ⟨h.action, h.source, h.rows⟩
  rw [hliterals.compile_eq, hmarks.compile_eq]
  rfl

/-- Written with literals, the text of a complete statement is resolved as it is. -/
theorem Complete.literalText_eq_resolve {q : Query} {a : Action} (hq : q.Complete a) :
    q.literalText = (q.withLiterals.resolve (q.statementText a)).map (·.query) := by
  have hliterals : q.withLiterals.Complete a := ⟨hq.action, hq.source, hq.clauses⟩
  have htext : q.withLiterals.statementText a = q.statementText a := by cases a <;> rfl
  rw [literalText, hliterals.compile_eq, htext]

/-- Marks and literals are woven into the same cut. -/
theorem Complete.weave {q : Query} {a : Action} (hq : q.Complete a) {c : Compiled}
    (hc : q.withMarks.compile = .ok c) :
    (tokens (template (q.statementText a))).length = c.data.length ∧
      c.query = (cutOf (template (q.statementText a))).weave (c.data.map fun _ => "?") ∧
      q.literalText =
        .ok ((cutOf (template (q.statementText a))).weave (c.data.map Value.literal)) := by
  have hmarks : q.withMarks.Complete a := ⟨hq.action, hq.source, hq.clauses⟩
  have htext : q.withMarks.statementText a = q.statementText a := by cases a <;> rfl
  rw [hmarks.compile_eq, htext] at hc
  by_cases h : q.Stores (tokens (template (q.statementText a)))
  · obtain ⟨vs, hvs⟩ := h.exists_values
    rw [resolve_of_stored (q := q.withMarks) hvs] at hc
    cases hc
    have hlen := congrArg List.length hvs
    rw [List.length_map, List.length_map] at hlen
    refine ⟨hlen, rfl, ?_⟩
    rw [hq.literalText_eq_resolve, resolve_of_stored (q := q.withLiterals) hvs]
    rfl
  · obtain ⟨before, t, after, hts, hbefore, ht⟩ := exists_first_missing h
    rw [resolve_of_missing (q := q.withMarks) hts hbefore ht] at hc
    cases hc

/-- **Literals stand where marks stand.** Compiling to literals fails exactly when compiling to
marks does, and in the same way. An insert with rows compiles to the same thing either way. For
any other statement both texts are woven into the same leftmost cut: one from marks, the other
from the literals of the data. -/
theorem literals_agree_with_marks (q : Query) :
    (∀ f, q.literalText = .error f ↔ q.withMarks.compile = .error f) ∧
      (q.WritesRows → q.withLiterals.compile = q.withMarks.compile) ∧
      ∀ c, ¬ q.WritesRows → q.withMarks.compile = .ok c →
        ∃ (a : Action) (cut : Cut), q.action = some a ∧ cut.Leftmost ∧
          cut.text = q.statementText a ∧ cut.tokens.length = c.data.length ∧
          c.query = cut.weave (c.data.map fun _ => "?") ∧
          q.literalText = .ok (cut.weave (c.data.map Value.literal)) := by
  refine ⟨q.literalText_eq_error_iff, WritesRows.compile_withLiterals, fun c hrows hc => ?_⟩
  have hwritten := hc
  rw [compile_eq] at hwritten
  cases hw : q.withMarks.written with
  | error f =>
    rw [hw] at hwritten
    cases hwritten
  | ok w =>
    rcases written_eq_ok hw with ⟨a, ha, -⟩ | ⟨h, -⟩
    · have hq : q.Complete a := ⟨ha.action, ha.source, ha.clauses⟩
      obtain ⟨hlen, hquery, hliteral⟩ := hq.weave hc
      exact ⟨a, _, ha.action, leftmost_cutOf _, text_cutOf _, by rw [tokens_cutOf, hlen], hquery,
        hliteral⟩
    · exact absurd ⟨h.action, h.source, h.rows⟩ hrows

theorem bracedQuery_literals :
    ¬ bracedQuery.WritesRows ∧ ∃ c, bracedQuery.withMarks.compile = .ok c ∧
      (∃ (a : Action) (cut : Cut), bracedQuery.action = some a ∧ cut.Leftmost ∧
        cut.text = bracedQuery.statementText a ∧ cut.tokens.length = c.data.length ∧
        c.query = cut.weave (c.data.map fun _ => "?") ∧
        bracedQuery.literalText = .ok (cut.weave (c.data.map Value.literal))) ∧
      bracedQuery.literalText =
        .ok ("SELECT * FROM `t` WHERE " ++
          "a = \x7b'{{x}}?\\''\x7d OR b = '{{x}}?\\'' OR c = 3 OR d = '?'") := by
  have hrows : ¬ bracedQuery.WritesRows := fun h => h.rows rfl
  obtain ⟨-, -, hweave⟩ := literals_agree_with_marks bracedQuery
  exact ⟨hrows, _, bracedQuery_compile, hweave _ hrows bracedQuery_compile, by decide +kernel⟩

end SqlBuilder.Query
