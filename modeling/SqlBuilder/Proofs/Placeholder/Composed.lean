import SqlBuilder.Query.Statement

/-!
# The placeholders of composed texts

A statement is put together from fragments, and only the whole text is read for placeholders. This
module shows that the reader sees in the whole what it would see in the fragments, one after the
other. The reason is the same everywhere: what stands between two fragments begins and ends with a
character that no placeholder can hold, so none can run across it.

`Separates` is this property of a text, and `placeholders_intercalate` lifts it to lists of
fragments; `Glue` is the reason as a check on the text itself. Quoting a name doubles its
backticks, which break placeholders both before and after (`placeholders_quote`).
-/

namespace SqlBuilder

open Placeholder

/-- The placeholders of a text, from left to right. -/
def placeholders (sql : String) : List String := tokens (template sql)

/-- A text that keeps the placeholders on its two sides apart and has none itself. -/
def Separates (sep : String) : Prop :=
  ∀ a b, placeholders (a ++ sep ++ b) = placeholders a ++ placeholders b

theorem separates_singleton {c : Char} (hc : Breaks c) : Separates (String.singleton c) :=
  tokens_template_append hc

@[simp] theorem placeholders_empty : placeholders "" = [] := rfl

theorem placeholders_intercalate {sep : String} (h : Separates sep) (parts : List String) :
    placeholders (sep.intercalate parts) = parts.flatMap placeholders := by
  induction parts with
  | nil => rw [String.intercalate_nil, placeholders_empty, List.flatMap_nil]
  | cons part parts ih =>
    cases parts with
    | nil => rw [String.intercalate_singleton, List.flatMap_singleton]
    | cons next parts =>
      rw [String.intercalate_cons_cons, h, ih]
      rfl

/-! ## What stands between fragments -/

theorem placeholders_of_not_mem {sql : String} (h : '{' ∉ sql.toList) : placeholders sql = [] := by
  suffices ∀ cs : List Char, '{' ∉ cs → tokens (pieces 0 cs) = [] from this _ h
  intro cs hcs
  induction cs with
  | nil => rfl
  | cons c cs ih =>
    have hname : nameAt? (c :: cs) = none := by
      cases hname : nameAt? (c :: cs) with
      | none => rfl
      | some name =>
        obtain ⟨⟨rest, hrest⟩, -⟩ := nameAt?_eq_some hname
        rw [token, openBraces] at hrest
        obtain ⟨rfl, -⟩ := List.cons.inj hrest
        exact absurd (List.mem_cons_self ..) hcs
    rw [pieces_cons, hname]
    exact ih fun hmem => hcs (List.mem_cons_of_mem _ hmem)

/-- A text without braces that ends with a character no placeholder can hold. -/
def Lead (s : String) : Prop := s.toList.getLast?.any (Breaks ·) ∧ '{' ∉ s.toList

/-- A lead that begins with such a character as well. -/
def Glue (sep : String) : Prop := sep.toList.head?.any (Breaks ·) ∧ Lead sep

instance (s : String) : Decidable (Lead s) := inferInstanceAs (Decidable (_ ∧ _))

instance (sep : String) : Decidable (Glue sep) := inferInstanceAs (Decidable (_ ∧ _))

theorem Lead.exists_eq {s : String} (h : Lead s) :
    ∃ mid d, Breaks d ∧ s = mid ++ String.singleton d ∧ placeholders mid = [] := by
  obtain ⟨hlast, hbrace⟩ := h
  obtain ⟨d, hlast, hd⟩ := (Option.any_eq_true _ _).1 hlast
  obtain ⟨mid, hmid⟩ := List.getLast?_eq_some_iff.1 hlast
  refine ⟨.ofList mid, d, of_decide_eq_true hd, ?_, placeholders_of_not_mem fun hmem => hbrace ?_⟩
  · apply String.toList_inj.1
    simp [hmid]
  · rw [hmid]
    exact List.mem_append_left _ (by simpa using hmem)

theorem placeholders_lead {s : String} (h : Lead s) (b : String) :
    placeholders (s ++ b) = placeholders b := by
  obtain ⟨mid, d, hd, rfl, hmid⟩ := h.exists_eq
  rw [separates_singleton hd, hmid, List.nil_append]

theorem Glue.exists_eq {sep : String} (h : Glue sep) :
    ∃ c rest, Breaks c ∧ sep = String.singleton c ++ rest ∧ (rest = "" ∨ Lead rest) := by
  obtain ⟨hhead, hlast, hbrace⟩ := h
  obtain ⟨c, hhead, hc⟩ := (Option.any_eq_true _ _).1 hhead
  obtain ⟨rest, hrest⟩ := List.head?_eq_some_iff.1 hhead
  refine ⟨c, .ofList rest, of_decide_eq_true hc, ?_, ?_⟩
  · apply String.toList_inj.1
    simp [hrest]
  · cases rest with
    | nil => exact .inl rfl
    | cons e rest =>
      rw [hrest, List.getLast?_cons_cons] at hlast
      rw [hrest] at hbrace
      exact .inr ⟨by simpa using hlast, fun hmem => hbrace
        (List.mem_cons_of_mem _ (by simpa using hmem))⟩

theorem Glue.separates {sep : String} (h : Glue sep) : Separates sep := by
  obtain ⟨c, rest, hc, rfl, hrest⟩ := h.exists_eq
  intro a b
  have hb : placeholders (rest ++ b) = placeholders b := by
    rcases hrest with rfl | hrest
    · rw [String.empty_append]
    · exact placeholders_lead hrest b
  have hassoc : a ++ (String.singleton c ++ rest) ++ b =
      a ++ String.singleton c ++ (rest ++ b) := by
    simp only [String.append_assoc]
  rw [hassoc, separates_singleton hc, hb]

theorem placeholders_glue {sep : String} (h : Glue sep) (a b : String) :
    placeholders (a ++ sep ++ b) = placeholders a ++ placeholders b :=
  h.separates a b

theorem placeholders_glue_right {sep : String} (h : Glue sep) (a : String) :
    placeholders (a ++ sep) = placeholders a := by
  have hempty := h.separates a ""
  rwa [String.append_empty, placeholders_empty, List.append_nil] at hempty

@[simp] theorem placeholders_connective (c : Connective) : placeholders c.keyword = [] := by
  cases c <;> exact placeholders_of_not_mem (by decide)

theorem separates_blank : Separates " " := Glue.separates (by decide)

theorem separates_dot : Separates "." := Glue.separates (by decide)

theorem separates_comma : Separates ", " := Glue.separates (by decide)

theorem separates_connective (c : Connective) : Separates (" " ++ c.keyword ++ " ") := by
  cases c <;> exact Glue.separates (by decide)

theorem placeholders_spaced (parts : List String) :
    placeholders (spaced parts) = parts.flatMap placeholders :=
  placeholders_intercalate separates_blank parts

theorem placeholders_listed (parts : List String) :
    placeholders (listed parts) = parts.flatMap placeholders :=
  placeholders_intercalate separates_comma parts

/-! ## Filling -/

theorem fill_append (f : String → String) (t u : Template) :
    fill f (t ++ u) = fill f t ++ fill f u := by
  apply String.toList_inj.1
  simp [fill]

/-- What is put in matters only at the placeholders there are. -/
theorem fill_congr {f g : String → String} {t : Template} (h : ∀ k ∈ tokens t, f k = g k) :
    fill f t = fill g t := by
  induction t with
  | nil => rfl
  | cons p t ih =>
    cases p with
    | char c => rw [fill_char, fill_char, ih h]
    | slot name =>
      rw [fill_slot, fill_slot, h _ (List.mem_cons_self ..),
        ih fun k hk => h k (List.mem_cons_of_mem _ hk)]

theorem fill_of_placeholders_eq_nil {sql : String} (h : placeholders sql = [])
    (f : String → String) : fill f (template sql) = sql := by
  have hid : fill f (template sql) = fill id (template sql) :=
    fill_congr fun k (hk : k ∈ placeholders sql) => by simp [h] at hk
  rw [hid, fill_id]

theorem fill_template_append {c : Char} (hc : Breaks c) (f : String → String) (a b : String) :
    fill f (template (a ++ String.singleton c ++ b)) =
      fill f (template a) ++ String.singleton c ++ fill f (template b) := by
  rw [template_append hc, fill_append, fill_char, String.append_assoc]

theorem fill_lead {s : String} (h : Lead s) (f : String → String) (b : String) :
    fill f (template (s ++ b)) = s ++ fill f (template b) := by
  obtain ⟨mid, d, hd, rfl, hmid⟩ := h.exists_eq
  rw [fill_template_append hd, fill_of_placeholders_eq_nil hmid]

theorem fill_glue {sep : String} (h : Glue sep) (f : String → String) (a b : String) :
    fill f (template (a ++ sep ++ b)) = fill f (template a) ++ sep ++ fill f (template b) := by
  obtain ⟨c, rest, hc, rfl, hrest⟩ := h.exists_eq
  have hb : fill f (template (rest ++ b)) = rest ++ fill f (template b) := by
    rcases hrest with rfl | hrest
    · rw [String.empty_append, String.empty_append]
    · exact fill_lead hrest f b
  have hassoc : a ++ (String.singleton c ++ rest) ++ b =
      a ++ String.singleton c ++ (rest ++ b) := by
    simp only [String.append_assoc]
  rw [hassoc, fill_template_append hc, hb]
  simp only [String.append_assoc]

theorem fill_glue_right {sep : String} (h : Glue sep) (f : String → String) (a : String) :
    fill f (template (a ++ sep)) = fill f (template a) ++ sep := by
  have hempty := fill_glue h f a ""
  rwa [String.append_empty, show fill f (template "") = "" from rfl, String.append_empty] at hempty

theorem fill_intercalate {sep : String} (h : Glue sep) (f : String → String)
    (parts : List String) : fill f (template (sep.intercalate parts)) =
      sep.intercalate (parts.map fun s => fill f (template s)) := by
  induction parts with
  | nil => rfl
  | cons s parts ih =>
    cases parts with
    | nil => rw [List.map_singleton, String.intercalate_singleton, String.intercalate_singleton]
    | cons t parts =>
      rw [List.map_cons, List.map_cons, String.intercalate_cons_cons,
        String.intercalate_cons_cons, fill_glue h, ih, List.map_cons]

/-! ## Quoted names -/

theorem tokens_pieces_append {c : Char} (hc : Breaks c) (cs rest : List Char) :
    tokens (pieces 0 (cs ++ c :: rest)) = tokens (pieces 0 cs) ++ tokens (pieces 0 rest) := by
  rw [pieces_append hc rest (Nat.zero_le _), tokens_append]
  rfl

theorem breaks_backtick : Breaks Identifier.mark := by decide

/-- Doubling the backticks of a name leaves its placeholders alone. What was read before is
carried along, since a placeholder may have begun there. -/
theorem tokens_flatMap_escape (before cs : List Char) :
    tokens (pieces 0 (before ++ cs.flatMap Identifier.escape)) =
      tokens (pieces 0 (before ++ cs)) := by
  induction cs generalizing before with
  | nil => rfl
  | cons c cs ih =>
    rw [List.flatMap_cons]
    by_cases hc : c = Identifier.mark
    · subst hc
      have hnil := ih []
      rw [List.nil_append, List.nil_append] at hnil
      rw [Identifier.escape, if_pos rfl, List.cons_append, List.singleton_append,
        tokens_pieces_append breaks_backtick, tokens_pieces_append breaks_backtick, ← hnil]
      exact congrArg _ (tokens_pieces_append breaks_backtick [] _)
    · rw [Identifier.escape, if_neg hc]
      simpa using ih (before ++ [c])

@[simp] theorem placeholders_quote (name : String) :
    placeholders (Identifier.quote name) = placeholders name := by
  have h := tokens_flatMap_escape [] name.toList
  rw [List.nil_append, List.nil_append] at h
  rw [placeholders, template, Identifier.quote, String.toList_ofList, Identifier.quoteChars,
    List.cons_append]
  have hopen := tokens_pieces_append breaks_backtick []
    (name.toList.flatMap Identifier.escape ++ [Identifier.mark])
  rw [List.nil_append] at hopen
  rw [hopen, tokens_pieces_append breaks_backtick, h]
  exact List.append_nil _

/-- The placeholders of a table are those of its names. -/
theorem placeholders_table (database : Option String) (name : String)
    (aliasName : Option String) :
    placeholders (Identifier.table database name aliasName) =
      (database.toList ++ [name] ++ aliasName.toList).flatMap placeholders := by
  have hdatabase (d : String) : placeholders (Identifier.quote d ++ "." ++ Identifier.quote name) =
      placeholders d ++ placeholders name := by
    rw [separates_dot, placeholders_quote, placeholders_quote]
  have halias (source a : String) : placeholders (source ++ (" " ++ a)) =
      placeholders source ++ placeholders a := by
    rw [← String.append_assoc, separates_blank]
  cases database <;> cases aliasName <;> simp [Identifier.table, hdatabase, halias]

/-! ## Single placeholders -/

theorem pieces_of_length_le {skip : Nat} {cs : List Char} (h : cs.length ≤ skip) :
    pieces skip cs = [] := by
  induction cs generalizing skip with
  | nil => cases skip <;> rfl
  | cons c cs ih =>
    obtain ⟨n, rfl⟩ : ∃ n, skip = n + 1 := ⟨skip - 1, by simp at h; omega⟩
    exact ih (by simpa using h)

/-- A placeholder by itself is read as one piece. -/
theorem template_token {name : List Char} (h : ∀ c ∈ name, Text.isWord c = true) :
    template (.ofList (token name)) = [.slot name] := by
  have hname : nameAt? (token name ++ []) = some name := nameAt?_token h
  rw [template, String.toList_ofList]
  rw [List.append_nil] at hname
  have hlength := length_token name
  cases htoken : token name with
  | nil => simp [htoken] at hlength
  | cons c cs =>
    rw [htoken] at hname hlength
    rw [pieces_cons, hname]
    exact congrArg _ (pieces_of_length_le (by simp at hlength; omega))

theorem placeholders_token {name : List Char} (h : ∀ c ∈ name, Text.isWord c = true) :
    placeholders (.ofList (token name)) = [.ofList (token name)] := by
  rw [placeholders, template_token h]
  rfl

theorem isWord_of_slot_mem {skip : Nat} {cs name : List Char} (h : .slot name ∈ pieces skip cs) :
    ∀ c ∈ name, Text.isWord c = true := by
  induction cs generalizing skip with
  | nil => cases skip <;> cases h
  | cons c cs ih =>
    cases skip with
    | succ skip => exact ih h
    | zero =>
      rw [pieces_cons] at h
      cases hname : nameAt? (c :: cs) with
      | none =>
        rw [hname] at h
        exact ih (by simpa using h)
      | some found =>
        rw [hname] at h
        rcases List.mem_cons.1 h with heq | h
        · obtain rfl := Piece.slot.inj heq
          exact (nameAt?_eq_some hname).2
        · exact ih h

/-- What the reader finds in a text are placeholders. -/
theorem placeholders_of_mem {sql t : String} (h : t ∈ placeholders sql) : placeholders t = [t] := by
  obtain ⟨p, hp, ht⟩ := List.mem_filterMap.1 h
  cases p with
  | char c => cases ht
  | slot name =>
    cases ht
    exact placeholders_token (isWord_of_slot_mem hp)

end SqlBuilder
