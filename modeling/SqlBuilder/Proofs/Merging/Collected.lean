import SqlBuilder.Proofs.Placeholder.Composed
import SqlBuilder.Proofs.Placeholder.Leftmost

/-!
# The bindings a text needs

A text that goes into another query takes the bindings along that it refers to
(`Bindings.referenced`). Which these are is decided by the reader of placeholders, who passes over
what lies in a placeholder it has found. Nothing is lost by that, because two placeholders never
overlap: both of the braces that one begins with would have to lie behind the beginning of the
other, and there are no two opening braces side by side (`Placeholder.not_begins_drop_token`). So
the reader finds just those placeholders that stand anywhere in the text
(`Placeholder.mem_placeholders_iff`).

The rest follows from look-ups, since a store is known by what it holds under each key, and from the
reader going over a text in parentheses as over the text alone.
-/

namespace SqlBuilder

open Placeholder

/-! ## Where placeholders stand -/

namespace Placeholder

/-- A name of word characters in braces. -/
def IsToken (t : String) : Prop :=
  ∃ name : List Char, (∀ c ∈ name, Text.isWord c = true) ∧ t = .ofList (token name)

theorem Begins.exists_eq {cs : List Char} (h : Begins cs) : ∃ rest, cs = '{' :: '{' :: rest := by
  obtain ⟨name, rest, -, rfl⟩ := h
  exact ⟨name ++ closeBraces ++ rest, by simp [token, openBraces]⟩

/-- No placeholder begins inside another one. -/
theorem not_begins_drop_token {name : List Char} (hname : ∀ c ∈ name, Text.isWord c = true)
    (rest : List Char) {i : Nat} (hpos : 0 < i) (hlt : i < (token name).length) :
    ¬ Begins ((token name ++ rest).drop i) := by
  intro hbegins
  -- Behind the first two characters of a placeholder there is no opening brace.
  have hinside (k : Nat) (hk : k < (name ++ closeBraces).length) :
      (token name ++ rest)[k + 2]? ≠ some '{' := by
    intro hbrace
    have hshift : (token name ++ rest)[k + 2]? = (name ++ closeBraces)[k]? := by
      have hleft : (name ++ closeBraces ++ rest)[k]? = (name ++ closeBraces)[k]? :=
        List.getElem?_append_left hk
      rw [← hleft]
      simp [token, openBraces]
    rw [hshift] at hbrace
    rcases List.mem_append.1 (List.mem_of_getElem? hbrace) with hmem | hmem
    · exact absurd (hname _ hmem) (by rw [Text.isWord_brace.1]; exact Bool.false_ne_true)
    · revert hmem
      decide
  obtain ⟨tail, htail⟩ := hbegins.exists_eq
  have hfirst : (token name ++ rest)[i]? = some '{' := by
    rw [← Nat.add_zero i, ← List.getElem?_drop, htail]
    rfl
  have hsecond : (token name ++ rest)[i + 1]? = some '{' := by
    rw [← List.getElem?_drop, htail]
    rfl
  rw [length_token] at hlt
  have hlength : (name ++ closeBraces).length = name.length + 2 := by simp [closeBraces]
  obtain rfl | ⟨k, rfl⟩ : i = 1 ∨ ∃ k, i = k + 2 := by
    rcases i with _ | _ | k
    · exact absurd hpos (Nat.lt_irrefl 0)
    · exact .inl rfl
    · exact .inr ⟨k, rfl⟩
  · exact hinside 0 (by omega) hsecond
  · exact hinside k (by omega) hfirst

/-- The reader does not pass over a placeholder, whatever stands before it. -/
theorem slot_mem_pieces {name : List Char} (hname : ∀ c ∈ name, Text.isWord c = true)
    (before after : List Char) {skip : Nat} (hskip : skip ≤ before.length) :
    .slot name ∈ pieces skip (before ++ token name ++ after) := by
  induction before generalizing skip with
  | nil =>
    obtain rfl : skip = 0 := Nat.le_zero.1 hskip
    have hfound : nameAt? (token name ++ after) = some name := nameAt?_token hname
    rw [List.nil_append]
    cases htext : token name ++ after with
    | nil =>
      rw [htext] at hfound
      cases hfound
    | cons c cs =>
      rw [pieces_cons, ← htext, hfound]
      exact List.mem_cons_self
  | cons c before ih =>
    cases skip with
    | succ skip => exact ih (Nat.le_of_succ_le_succ hskip)
    | zero =>
      rw [List.cons_append, List.cons_append, pieces_cons]
      cases hfound : nameAt? (c :: (before ++ token name ++ after)) with
      | none => exact List.mem_cons_of_mem _ (ih (Nat.zero_le _))
      | some found =>
        refine List.mem_cons_of_mem _ (ih ?_)
        obtain ⟨⟨rest, hrest⟩, hword⟩ := nameAt?_eq_some hfound
        -- The placeholder found here ends before the other one begins.
        apply Decidable.byContradiction
        intro hlong
        have hinside := not_begins_drop_token hword rest (i := before.length + 1) (by omega)
          (by rw [length_token]; omega)
        rw [← hrest, List.drop_succ_cons, List.append_assoc, List.drop_left] at hinside
        exact hinside ⟨name, after, hname, rfl⟩

/-- What is found in a text are the placeholders that stand anywhere in it. -/
theorem mem_placeholders_iff {t sql : String} :
    t ∈ placeholders sql ↔ IsToken t ∧ t.toList <:+: sql.toList := by
  constructor
  · intro h
    obtain ⟨p, hp, ht⟩ := List.mem_filterMap.1 h
    cases p with
    | char c => cases ht
    | slot name =>
      cases ht
      refine ⟨⟨name, isWord_of_slot_mem hp, rfl⟩, ?_⟩
      obtain ⟨before, after, hpieces⟩ := List.append_of_mem hp
      have htext : (template sql).flatMap Piece.text = sql.toList := text_pieces 0 sql.toList
      rw [hpieces, List.flatMap_append, List.flatMap_cons] at htext
      exact ⟨_, _, by rw [String.toList_ofList, ← htext, List.append_assoc]; rfl⟩
  · rintro ⟨⟨name, hname, rfl⟩, before, after, htext⟩
    rw [String.toList_ofList] at htext
    refine List.mem_filterMap.2 ⟨.slot name, ?_, rfl⟩
    rw [template, ← htext]
    exact slot_mem_pieces hname before after (Nat.zero_le _)

/-- A text in parentheses is read as the text alone. -/
theorem template_enclosed (before sql after : String) :
    template (before ++ "(" ++ sql ++ ")" ++ after) =
      template before ++ .char '(' :: (template sql ++ .char ')' :: template after) := by
  have hopening : "(" = String.singleton '(' := by decide
  have hclosing : ")" = String.singleton ')' := by decide
  rw [hopening, hclosing, template_append (by decide), template_append (by decide),
    List.append_assoc, List.cons_append]

end Placeholder

/-! ## Collected bindings -/

namespace Bindings

/-- A placeholder is the key that it is looked up under. -/
theorem key_of_isToken {t : String} (h : IsToken t) : key t = t := by
  obtain ⟨name, -, rfl⟩ := h
  refine if_pos ?_
  rw [String.toList_ofList]
  simp [token, openBraces]

theorem referenced_referenced (b : Bindings) (sql : String) :
    (b.referenced sql).referenced sql = b.referenced sql :=
  Dict.ext_get? fun key => by
    rw [get?_referenced, get?_referenced]
    split
    · rfl
    · rfl

theorem referenced_append (b : Bindings) (sql more : String) :
    b.referenced (sql ++ " " ++ more) = (b.referenced sql).merge (b.referenced more) :=
  Dict.ext_get? fun key => by
    have hboth : tokens (template (sql ++ " " ++ more)) =
        tokens (template sql) ++ tokens (template more) := separates_blank sql more
    rw [Dict.get?_merge, get?_referenced, get?_referenced, get?_referenced, hboth]
    by_cases hsql : key ∈ tokens (template sql) <;>
      by_cases hmore : key ∈ tokens (template more) <;> simp [hsql, hmore]

/-- **Collected bindings are what a text needs.** Of a store, a text takes along what it holds under
the placeholders that stand in the text, and nothing else. Every placeholder of the text stands for
the same value as before, or for none as before. The placeholders are found in the text in the same
places when it stands in parentheses among other texts. To collect twice is to collect once, and
what two texts with a blank between them take along is what the one takes and what the other
takes. -/
theorem referenced_exact (b : Bindings) (sql : String) :
    (∀ key v, (b.referenced sql).get? key = some v ↔
        (IsToken key ∧ key.toList <:+: sql.toList) ∧ b.get? key = some v) ∧
      (∀ t, t ∈ placeholders sql ↔ IsToken t ∧ t.toList <:+: sql.toList) ∧
      (∀ t ∈ placeholders sql, (b.referenced sql).find? t = b.find? t) ∧
      (∀ before after, template (before ++ "(" ++ sql ++ ")" ++ after) =
        template before ++ .char '(' :: (template sql ++ .char ')' :: template after)) ∧
      (b.referenced sql).referenced sql = b.referenced sql ∧
      ∀ more, b.referenced (sql ++ " " ++ more) = (b.referenced sql).merge (b.referenced more) := by
  refine ⟨fun key v => ?_, fun t => mem_placeholders_iff, fun t ht => ?_,
    fun before after => template_enclosed before sql after, referenced_referenced b sql,
    referenced_append b sql⟩
  · have hget : (b.referenced sql).get? key =
        if key ∈ placeholders sql then b.get? key else none := get?_referenced b sql key
    rw [hget, ← mem_placeholders_iff]
    by_cases hkey : key ∈ placeholders sql
    · rw [if_pos hkey]
      exact ⟨fun h => ⟨hkey, h⟩, And.right⟩
    · rw [if_neg hkey]
      exact ⟨fun h => (Option.some_ne_none v h.symm).elim, fun h => absurd h.1 hkey⟩
  · rw [find?, find?, key_of_isToken (mem_placeholders_iff.1 ht).1, get?_referenced]
    exact if_pos ht

/-- A store of three values, one of them under a name that is no placeholder. -/
def threeValues : Bindings :=
  put (put (put .empty "a" (.int 1)) "b" (.int 2)) "c-d" (.int 3)

/-- Placeholders among runs of braces: one stands within a third pair, one is stored nowhere, and
one is broken off. -/
def braceRuns : String := "x = {{{a}}} OR y = {{e}} OR z = \x7b\x7bb\x7d"

theorem referenced_exact_braceRuns :
    placeholders braceRuns = ["{{a}}", "{{e}}"] ∧
      (threeValues.referenced braceRuns).entries = [("{{a}}", .int 1)] ∧
      (threeValues.referenced braceRuns).find? "{{a}}" = threeValues.find? "{{a}}" ∧
      (threeValues.referenced braceRuns).find? "{{e}}" = none := by
  have hfound : placeholders braceRuns = ["{{a}}", "{{e}}"] := by decide +kernel
  obtain ⟨-, -, hsame, -⟩ := referenced_exact threeValues braceRuns
  refine ⟨hfound, by decide +kernel, hsame _ (by rw [hfound]; decide), ?_⟩
  rw [hsame "{{e}}" (by rw [hfound]; decide)]
  decide +kernel

end Bindings
end SqlBuilder
