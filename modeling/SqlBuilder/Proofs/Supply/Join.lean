import SqlBuilder.Proofs.Supply.Writes

/-!
# Columns and joins are supplied for

A join string under a kind loses the keywords it begins with. Each of them has a blank behind it,
which no placeholder can hold, so what is left of the string has no placeholders but those the
string had (`placeholders_dropKeywords`).
-/

namespace SqlBuilder

open Placeholder

variable {S : String → Value → Prop}

/-! ## Columns -/

namespace Column

/-- What a column needs of the query it is added to. -/
def needs (c : Column Query) : List String := c.sqlTexts ++ c.queries.flatMap Query.loose

theorem text_writes (c : Column Query)
    (hS : ∀ q ∈ c.queries, ∀ k v, q.Brings k v → S k v) :
    Writes S c.needs c.text fun text => [text] := by
  cases c with
  | name s => exact .pure (by simp +contextual [needs, sqlTexts, queries])
  | data v modifier =>
    refine (Binder.bind_writes v modifier).widen ?_
    simp +contextual [needs, sqlTexts]
  | query q =>
    refine .ite ?_ (.throw _)
    refine (Query.embed_writes (hS q (List.mem_singleton_self q))).widen ?_
    simp +contextual [needs, queries]
  | value v =>
    cases v with
    | text s => exact .pure (by simp +contextual [needs, sqlTexts, queries])
    | int n => exact (Binder.bind_writes (.int n) none).widen (by simp)
    | float x => exact (Binder.bind_writes (.float x) none).widen (by simp)
    | time t => exact (Binder.bind_writes (.time t) none).widen (by simp)
    | null | bool _ => exact .throw _

end Column

/-! ## Conditions of a join -/

namespace JoinOn

theorem rightSide_writes (field : String) (v : Operand) :
    Writes S v.sideTexts (rightSide field v) fun text => [text] := by
  cases v with
  | value v =>
    cases v with
    | text column => exact .pure (by simp [Operand.sideTexts])
    | _ =>
      refine (Binder.bindOperand_writes (.value _) none).widen ?_
      simp [Operand.sqlTexts]
  | data v modifier =>
    refine (Binder.bindOperand_writes (.data v modifier) none).widen ?_
    simp [Operand.sideTexts]
  | raw sql => exact .pure (by simp [Operand.sideTexts, Operand.sqlTexts])
  | list _ | object _ => exact .throw _

/-- The comparison with a single operand. -/
theorem compareSide_writes (negated : Bool) (field : String) (v : Operand) :
    Writes S (field :: v.sideTexts)
      (do return field ++ (if negated then " != " else " = ") ++ (← rightSide field v))
      fun text => [text] := by
  refine .bind ((rightSide_writes field v).widen ?_) fun text => .pure ?_
  · simp +contextual
  · cases negated <;> simp +contextual (disch := decide)

theorem compare_writes (negated : Bool) (field : String) (v : Operand) :
    Writes S (field :: v.sideTexts) (compare negated field v) fun text => [text] := by
  cases v with
  | list items =>
    refine .bind ((Writes.mapM (fun v => Binder.bindOperand_writes v none) items).widen ?_)
      fun texts => .pure ?_
    · simp +contextual [Operand.sideTexts, Operand.sqlTexts, Operand.sqlTextsOfItems_eq]
    · cases negated <;> simp +contextual (disch := decide)
  | value v => exact compareSide_writes negated field (.value v)
  | data v modifier => exact compareSide_writes negated field (.data v modifier)
  | raw sql => exact compareSide_writes negated field (.raw sql)
  | object fs => exact compareSide_writes negated field (.object fs)

theorem compareFields_writes (negated : Bool) (fs : List (String × Operand)) :
    Writes S (fs.flatMap fun e => e.1 :: e.2.sideTexts) (compareFields negated fs) id := by
  induction fs generalizing negated with
  | nil => exact .pure fun b _ => Bindings.covers_nil b
  | cons f fs ih =>
    unfold compareFields
    refine .ite ((ih true).widen ?_) ?_
    · simp +contextual
    · refine .bind ((compare_writes negated f.1 f.2).widen ?_) fun first =>
        .bind ((ih negated).widen ?_) fun rest => .pure ?_
      all_goals simp +contextual [-Bindings.covers_flatMap]

theorem supplies_joined {b : Bindings} {connective : String} (hconnective : b.Supplies connective)
    {parts : List String} (h : b.Covers parts) : b.Supplies (joined connective parts) :=
  Bindings.supplies_intercalate_word hconnective fun s hs => h s (List.mem_of_mem_filter hs)

mutual

theorem text_writes (connective : String) : (on : JoinOn) →
    Writes S (connective :: on.sqlTexts) (text connective on) fun text => [text]
  | .raw sql => .pure (by simp [sqlTexts])
  | .list items => by
    refine .bind ((texts_writes items).widen ?_) fun parts => .pure ?_
    · simp +contextual [sqlTexts]
    · simp +contextual [supplies_joined]
  | .fields f => by
    refine .bind ((compareFields_writes false f.entries).widen ?_) fun parts => .pure ?_
    · simp +contextual [sqlTexts]
    · simp +contextual [supplies_joined]

theorem texts_writes : (ons : List JoinOn) → Writes S (sqlTextsOfItems ons) (texts ons) id
  | [] => .pure fun b _ => Bindings.covers_nil b
  | on :: ons => by
    unfold texts
    refine .bind ((text_writes Connective.and.keyword on).widen ?_) fun first =>
      .bind ((texts_writes ons).widen ?_) fun rest => .pure ?_
    all_goals simp +contextual [sqlTextsOfItems]

end

end JoinOn

/-! ## Join strings -/

namespace Join

theorem breaks_of_isBlank {c : Char} (h : Text.isBlank c = true) : Breaks c :=
  Text.forall_of_isBlank (by decide +kernel) h

/-- The characters are what is left of others behind a blank. -/
def Behind (rest cs : List Char) : Prop := ∃ before c, Text.isBlank c ∧ cs = before ++ c :: rest

theorem Behind.trans {a b c : List Char} (h : Behind a b) (h' : Behind b c) : Behind a c := by
  obtain ⟨before, d, hd, rfl⟩ := h
  obtain ⟨before', d', -, rfl⟩ := h'
  exact ⟨before' ++ d' :: before, d, hd, by simp⟩

theorem behind_skipBlanks {c : Char} (hc : Text.isBlank c = true) (cs : List Char) :
    Behind (Text.skipBlanks cs) (c :: cs) := by
  induction cs generalizing c with
  | nil => exact ⟨[], c, hc, rfl⟩
  | cons d cs ih =>
    by_cases hd : Text.isBlank d
    · obtain ⟨before, e, he, heq⟩ := ih hd
      refine ⟨c :: before, e, he, ?_⟩
      rw [Text.skipBlanks, List.dropWhile_cons_of_pos hd, heq]
      rfl
    · exact ⟨[], c, hc, by rw [Text.skipBlanks, List.dropWhile_cons_of_neg hd]; rfl⟩

theorem suffix_of_dropWord? {word cs rest : List Char} (h : dropWord? word cs = some rest) :
    rest <:+ cs := by
  induction word generalizing cs with
  | nil => exact Option.some.inj h ▸ List.suffix_rfl
  | cons w ws ih =>
    cases cs with
    | nil => cases h
    | cons c cs =>
      unfold dropWord? at h
      split at h
      · exact (ih h).trans (List.suffix_cons c cs)
      · cases h

theorem behind_of_dropKeyword? {word cs rest : List Char} (h : dropKeyword? word cs = some rest) :
    Behind rest cs := by
  unfold dropKeyword? at h
  split at h
  · rename_i c tail hword
    split at h
    · rename_i hc
      obtain rfl := Option.some.inj h
      obtain ⟨before, e, he, heq⟩ := behind_skipBlanks hc tail
      obtain ⟨front, hfront⟩ := suffix_of_dropWord? hword
      exact ⟨front ++ before, e, he, by rw [← hfront, heq, List.append_assoc]⟩
    · cases h
  · cases h

theorem behind_of_dropAny? {words : List (List Char)} {cs rest : List Char}
    (h : dropAny? cs words = some rest) : Behind rest cs := by
  induction words with
  | nil => cases h
  | cons word words ih =>
    rcases Option.or_eq_some_iff.1 h with h | ⟨-, h⟩
    · exact behind_of_dropKeyword? h
    · exact ih h

theorem behind_of_dropRun? {cs rest : List Char} (h : dropRun? cs = some rest) :
    Behind rest cs := by
  induction cs using dropRun?.induct with
  | case1 cs middle hmiddle ih =>
    unfold dropRun? at h
    split at h
    · rename_i other hother
      obtain rfl := Option.some.inj (hmiddle.symm.trans hother)
      exact (ih h).trans (behind_of_dropAny? hmiddle)
    · rename_i hnone
      rw [hmiddle] at hnone
      cases hnone
  | case2 cs hnone =>
    unfold dropRun? at h
    split at h
    · rename_i other hother
      rw [hnone] at hother
      cases hother
    · exact behind_of_dropKeyword? h

/-- What is left of a join string has no placeholders but those of the string. -/
theorem placeholders_dropKeywords {sql rest : String} (h : dropKeywords? sql = some rest) :
    ∀ t ∈ placeholders rest, t ∈ placeholders sql := by
  obtain ⟨cs, hcs, rfl⟩ := Option.map_eq_some_iff.1 h
  obtain ⟨before, c, hc, heq⟩ := behind_of_dropRun? hcs
  have hsql : sql.toList = sql.toList.takeWhile Text.isBlank ++ before ++ c :: cs := by
    rw [List.append_assoc, ← heq]
    exact List.takeWhile_append_dropWhile.symm
  intro t ht
  rw [placeholders, template, String.toList_ofList] at ht
  rw [placeholders, template, hsql, tokens_pieces_append (breaks_of_isBlank hc)]
  exact List.mem_append_right _ ht

theorem supplies_keyword {b : Bindings} (k : JoinKind) : b.Supplies k.keyword := by
  cases k <;> exact Bindings.supplies_of_not_mem (by decide)

theorem supplies_rawText {b : Bindings} {sql : String} (h : b.Supplies sql)
    (kind : Option JoinKind) : b.Supplies (rawText kind sql) := by
  cases hdrop : dropKeywords? sql with
  | none =>
    cases kind with
    | none =>
      simp only [rawText, hdrop]
      exact (Bindings.supplies_lead (by decide) sql).2 h
    | some k =>
      simp only [rawText, hdrop, Option.getD_none]
      exact (Bindings.supplies_glue (by decide) _ _).2 ⟨supplies_keyword k, h⟩
  | some rest =>
    have hrest : b.Supplies rest := fun t ht => h t (placeholders_dropKeywords hdrop t ht)
    cases kind with
    | none =>
      simp only [rawText, hdrop]
      exact h
    | some k =>
      simp only [rawText, hdrop, Option.getD_some]
      exact (Bindings.supplies_glue (by decide) _ _).2 ⟨supplies_keyword k, hrest⟩

/-! ## Joins given part by part -/

/-- What a join needs of the query it is added to. -/
def needs (j : Join Query) : List String := j.sqlTexts ++ j.queries.flatMap Query.loose

theorem targetParts_writes (aliasName : Option String) (target : Option (JoinTarget Query))
    (hS : ∀ q ∈ target.toList.flatMap targetQueries, ∀ k v,
      q.Brings k v → S k v) :
    Writes S (aliasName.toList ++ target.toList.flatMap targetTexts ++
      (target.toList.flatMap targetQueries).flatMap Query.loose)
      (targetParts aliasName target) id := by
  cases target with
  | none => exact .throw _
  | some target =>
    cases target with
    | table name =>
      refine .ite (.throw _) (.pure ?_)
      simp +contextual [targetTexts]
    | query q =>
      have hq := hS q (by simp [targetQueries])
      refine .bind ((Query.embed_writes (q := q.under aliasName)
        fun k v h => hq k v h.of_under).widen fun b hb => ?_) fun text => .pure ?_
      · simp [targetQueries] at hb
        exact Query.covers_loose_under hb.2.2 hb.1
      · simp +contextual

theorem linkParts_writes (o : JoinOptions Query) :
    Writes S (o.on.toList.flatMap JoinOn.sqlTexts ++ o.onConnective.toList ++ o.usingColumns)
      (linkParts o) id := by
  unfold linkParts
  refine .ite ?_ (.pure ?_)
  · cases o.on with
    | none => exact .pure fun b _ => Bindings.covers_nil b
    | some on =>
      refine .bind ((JoinOn.text_writes _ on).widen ?_) fun text => .pure ?_
      · cases o.onConnective <;> simp +contextual
      · simp +contextual (disch := decide)
  · simp +contextual (disch := decide)

theorem optionsText_writes (o : JoinOptions Query)
    (hS : ∀ q ∈ queries (.options o), ∀ k v, q.Brings k v → S k v) :
    Writes S (needs (.options o)) (optionsText o) fun text => [text] := by
  refine .bind ((targetParts_writes o.aliasName o.target hS).widen ?_) fun target =>
    .bind ((linkParts_writes o).widen ?_) fun link => .pure ?_
  all_goals simp +contextual [needs, sqlTexts, optionTexts, queries]

theorem text_writes (kind : Option JoinKind) (j : Join Query)
    (hS : ∀ q ∈ j.queries, ∀ k v, q.Brings k v → S k v) :
    Writes S j.needs (j.text kind) fun text => [text] := by
  cases j with
  | raw sql =>
    refine .ite (.throw _) (.pure ?_)
    simp +contextual [needs, sqlTexts, supplies_rawText]
  | query q => exact .throw _
  | options o =>
    refine (optionsText_writes { o with kind := (kind.map JoinKind.keyword).or o.kind } hS).widen ?_
    cases kind <;> simp +contextual [needs, sqlTexts, optionTexts, queries, supplies_keyword]

end Join
end SqlBuilder
