import SqlBuilder.Proofs.Compile.ClauseOrder
import SqlBuilder.Proofs.Names.Growth

/-!
# Texts that are supplied for

Bindings supply a text if every placeholder in it is stored (`Bindings.Supplies`), and a composed
text needs what its parts need. A query is closed if its bindings supply every text that can get
into its statements and its name has no placeholder (`Query.Closed`). What a query still needs
where it becomes a part of another one is `Query.loose`: the placeholders it holds no values for,
and its name. A closed query has no placeholder to offer there (`Closed.placeholders_loose`). The
texts it can give to another one are `Query.lent`, all but its assignments.
-/

namespace SqlBuilder

/-! ## Texts with their values -/

namespace Bindings

variable {b : Bindings}

/-- Every placeholder of the text is stored. -/
def Supplies (b : Bindings) (sql : String) : Prop := ∀ t ∈ placeholders sql, (b.get? t).isSome

/-- Every placeholder of the texts is stored. -/
def Covers (b : Bindings) (texts : List String) : Prop := ∀ s ∈ texts, b.Supplies s

instance (b : Bindings) (sql : String) : Decidable (b.Supplies sql) :=
  inferInstanceAs (Decidable (∀ t ∈ placeholders sql, _))

instance (b : Bindings) (texts : List String) : Decidable (b.Covers texts) :=
  inferInstanceAs (Decidable (∀ s ∈ texts, _))

@[simp] theorem covers_nil (b : Bindings) : b.Covers [] := fun _ h => nomatch h

@[simp] theorem covers_cons {s : String} {texts : List String} :
    b.Covers (s :: texts) ↔ b.Supplies s ∧ b.Covers texts :=
  List.forall_mem_cons

@[simp] theorem covers_append {texts more : List String} :
    b.Covers (texts ++ more) ↔ b.Covers texts ∧ b.Covers more :=
  List.forall_mem_append

@[simp] theorem covers_flatMap {α : Type} {f : α → List String} {l : List α} :
    b.Covers (l.flatMap f) ↔ ∀ a ∈ l, b.Covers (f a) :=
  List.forall_mem_flatMap

theorem supplies_of_placeholders_eq_nil {s : String} (h : placeholders s = []) : b.Supplies s :=
  fun t ht => by simp [h] at ht

/-- A text without braces needs no values. -/
@[simp] theorem supplies_of_not_mem {s : String} (h : '{' ∉ s.toList) : b.Supplies s :=
  supplies_of_placeholders_eq_nil (placeholders_of_not_mem h)

@[simp] theorem supplies_connective (c : Connective) : b.Supplies c.keyword :=
  supplies_of_placeholders_eq_nil (placeholders_connective c)

@[simp] theorem supplies_glue {sep : String} (h : Glue sep) (s t : String) :
    b.Supplies (s ++ sep ++ t) ↔ b.Supplies s ∧ b.Supplies t := by
  rw [Supplies, placeholders_glue h]
  exact List.forall_mem_append

@[simp] theorem supplies_lead {s : String} (h : Lead s) (t : String) :
    b.Supplies (s ++ t) ↔ b.Supplies t := by
  rw [Supplies, placeholders_lead h]
  rfl

@[simp] theorem supplies_glue_right {sep : String} (h : Glue sep) (s : String) :
    b.Supplies (s ++ sep) ↔ b.Supplies s := by
  rw [Supplies, placeholders_glue_right h]
  rfl

theorem supplies_of_flatMap {s : String} {texts : List String}
    (h : placeholders s = texts.flatMap placeholders) : b.Supplies s ↔ b.Covers texts := by
  rw [Supplies, h]
  exact List.forall_mem_flatMap

theorem supplies_intercalate {sep : String} (h : Separates sep) {texts : List String} :
    b.Supplies (sep.intercalate texts) ↔ b.Covers texts :=
  supplies_of_flatMap (placeholders_intercalate h texts)

@[simp] theorem supplies_spaced (texts : List String) :
    b.Supplies (spaced texts) ↔ b.Covers texts :=
  supplies_intercalate separates_blank

@[simp] theorem supplies_listed (texts : List String) :
    b.Supplies (listed texts) ↔ b.Covers texts :=
  supplies_intercalate separates_comma

@[simp] theorem supplies_quote (name : String) :
    b.Supplies (Identifier.quote name) ↔ b.Supplies name := by
  rw [Supplies, placeholders_quote]
  rfl

/-- Texts with a word between them, whose own placeholders come once for every place it takes. -/
theorem supplies_intercalate_word {word : String} (hword : b.Supplies word) {texts : List String}
    (h : b.Covers texts) : b.Supplies ((" " ++ word ++ " ").intercalate texts) := by
  induction texts with
  | nil => exact supplies_of_placeholders_eq_nil rfl
  | cons text texts ih =>
    obtain ⟨htext, htexts⟩ := covers_cons.1 h
    cases texts with
    | nil => rwa [String.intercalate_singleton]
    | cons next texts =>
      have hassoc (rest : String) : text ++ (" " ++ word ++ " ") ++ rest =
          text ++ " " ++ word ++ " " ++ rest := by
        simp only [String.append_assoc]
      rw [String.intercalate_cons_cons, hassoc]
      simp (disch := decide) only [supplies_glue]
      exact ⟨⟨htext, hword⟩, ih htexts⟩

end Bindings

theorem Binder.Grows.covers {S : String → Value → Prop} {b c : Binder} {names : List Generated}
    (h : Grows S b names c) {texts : List String} (hb : b.bindings.Covers texts) :
    c.bindings.Covers texts :=
  fun s hs t ht => h.isSome_get? (hb s hs t ht)

/-! ## Closed queries -/

namespace Query

/-- Every text that can get into a statement of the query. -/
def texts (q : Query) : List String :=
  q.columns ++ q.conditions ++ q.assignments ++ q.joins ++ q.subquery.toList ++ q.orderBy ++
    q.groupBy ++ q.database.toList ++ q.tableName.toList ++ q.aliasName.toList ++ q.limit.toList

/-- Every text that can get into a selection: all but the assignments. -/
def shown (q : Query) : List String :=
  q.columns ++ q.conditions ++ q.joins ++ q.subquery.toList ++ q.orderBy ++ q.groupBy ++
    q.database.toList ++ q.tableName.toList ++ q.aliasName.toList ++ q.limit.toList

/-- Every text that can get from the query into another one, its name included. -/
def lent (q : Query) : List String := q.shown ++ q.asName.toList

theorem mem_texts_iff {q : Query} {s : String} : s ∈ q.texts ↔ s ∈ q.shown ∨ s ∈ q.assignments := by
  simp only [texts, shown, List.mem_append]
  tauto

theorem covers_texts {b : Bindings} {q : Query} :
    b.Covers q.texts ↔ b.Covers q.shown ∧ b.Covers q.assignments := by
  simp only [Bindings.Covers, mem_texts_iff, or_imp, forall_and]

/-- Every placeholder in the query has a value, and there is none in its name. -/
structure Closed (q : Query) : Prop where
  texts : q.bindings.Covers q.texts
  name : ∀ name ∈ q.asName, placeholders name = []

/-- What the query needs of the one it becomes a part of. -/
def loose (q : Query) : List String :=
  (placeholders q.selectText).filter (fun t => (q.bindings.get? t).isNone) ++ q.asName.toList

theorem mem_shown_of_mem_sourceFragments {q : Query} {s : String} (h : s ∈ q.sourceFragments) :
    s ∈ q.shown ∨ s = "" := by
  simp only [shown, List.mem_append, Option.mem_toList]
  unfold sourceFragments at h
  cases hsub : q.subquery with
  | some sub =>
    rw [hsub] at h
    simp [List.mem_singleton.1 h]
  | none =>
    rw [hsub] at h
    cases htable : q.tableName <;> simp [htable] at h ⊢ <;> grind

theorem mem_texts_of_mem_sourceFragments {q : Query} {s : String} (h : s ∈ q.sourceFragments) :
    s ∈ q.texts ∨ s = "" :=
  (mem_shown_of_mem_sourceFragments h).imp_left fun hs => mem_texts_iff.2 (.inl hs)

theorem mem_shown_of_mem_fragments {q : Query} {s : String} (h : s ∈ q.fragments .select) :
    s ∈ q.shown ∨ s = "" := by
  have hsource := @mem_shown_of_mem_sourceFragments q s
  simp only [shown, List.mem_append] at hsource ⊢
  simp only [fragments, List.mem_append] at h
  grind

theorem mem_texts_of_mem_fragments {q : Query} {a : Action} {s : String} (h : s ∈ q.fragments a) :
    s ∈ q.texts ∨ s = "" := by
  have hsource := @mem_texts_of_mem_sourceFragments q s
  have hnamed : s ∈ q.namedColumns → s ∈ q.columns := by
    unfold namedColumns
    split
    · exact fun hs => nomatch hs
    · exact id
  simp only [texts, List.mem_append] at hsource ⊢
  cases a <;> simp only [fragments, List.mem_append] at h <;> grind

/-- In a closed query every placeholder of a statement has a value. -/
theorem Closed.supplies_statementText {q : Query} (h : q.Closed) (a : Action) :
    q.bindings.Supplies (q.statementText a) := by
  rw [Bindings.supplies_of_flatMap (q.placeholders_statementText a)]
  intro s hs
  rcases mem_texts_of_mem_fragments hs with hs | rfl
  · exact h.texts s hs
  · exact Bindings.supplies_of_placeholders_eq_nil rfl

theorem Closed.placeholders_loose {q : Query} (h : q.Closed) :
    ∀ s ∈ q.loose, placeholders s = [] := by
  intro s hs
  rcases List.mem_append.1 hs with hs | hs
  · obtain ⟨hmem, hnone⟩ := List.mem_filter.1 hs
    have hsome := h.supplies_statementText .select s hmem
    rw [Option.isNone_iff_eq_none.1 hnone] at hsome
    cases hsome
  · exact h.name s (Option.mem_toList.1 hs)

/-- The query under an alias, or under its own name without one. -/
def under (q : Query) (aliasName : Option String) : Query :=
  { q with asName := aliasName.or q.asName }

/-- Under an alias the query needs no more than the alias besides. -/
theorem covers_loose_under {b : Bindings} {q : Query} {aliasName : Option String}
    (h : b.Covers q.loose) (halias : b.Covers aliasName.toList) :
    b.Covers (q.under aliasName).loose := by
  obtain ⟨htexts, hname⟩ := Bindings.covers_append.1 h
  refine Bindings.covers_append.2 ⟨htexts, ?_⟩
  cases aliasName with
  | none => exact hname
  | some name => exact halias

end Query
end SqlBuilder
