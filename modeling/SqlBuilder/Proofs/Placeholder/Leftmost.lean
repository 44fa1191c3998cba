import SqlBuilder.Placeholder

/-!
# The leftmost placeholders of a text

What it means to take the placeholders out of a text from left to right, said without the reader
that does it. A *cut* divides a text into gaps and placeholders. It is *leftmost* when no
placeholder begins inside a gap: not one that lies in the gap, and not one that runs over its end.

A text has exactly one leftmost cut (`leftmost_cutOf`, `Cut.Leftmost.unique`), and it is the cut
that the pieces of the text describe, so `Placeholder.tokens` and `Placeholder.fill` can be read
off it. Runs of braces need no care of their own: in `{{{a}}}` the first brace begins no
placeholder, so it belongs to the gap.

The last section is about what is left when every placeholder gives way to a mark. No placeholder
can hold the mark, so one that stood in the marked text would lie in a gap, and a gap has none
(`Cut.Leftmost.marked`).
-/

namespace SqlBuilder.Placeholder

open Text

/-- A placeholder stands at the start of the text. -/
def Begins (cs : List Char) : Prop :=
  ∃ name rest, (∀ c ∈ name, isWord c = true) ∧ cs = token name ++ rest

/-- A text cut at placeholders: each with the gap before it, and the gap behind the last. -/
inductive Cut where
  | last (gap : String)
  | span (gap token : String) (tail : Cut)
deriving DecidableEq, Repr

namespace Cut

/-- The text of a cut with every placeholder replaced. -/
def fill (f : String → String) : Cut → String
  | last gap => gap
  | span gap token tail => gap ++ f token ++ tail.fill f

/-- The text that was cut. -/
def text (c : Cut) : String := c.fill id

/-- The placeholders of a cut, from left to right. -/
def tokens : Cut → List String
  | last _ => []
  | span _ token tail => token :: tail.tokens

/-- No placeholder begins before the place where the cut has one. -/
def Leftmost : Cut → Prop
  | last gap => ∀ i, ¬ Begins (gap.toList.drop i)
  | span gap token tail =>
    (∃ name, (∀ c ∈ name, isWord c = true) ∧ token = .ofList (Placeholder.token name)) ∧
      (∀ i < gap.length, ¬ Begins ((span gap token tail).text.toList.drop i)) ∧ tail.Leftmost

end Cut

/-! ## Where a placeholder begins -/

theorem begins_iff {cs : List Char} : Begins cs ↔ ∃ name, nameAt? cs = some name := by
  constructor
  · rintro ⟨name, rest, hname, rfl⟩
    exact ⟨name, nameAt?_token hname⟩
  · rintro ⟨name, h⟩
    obtain ⟨⟨rest, hrest⟩, hname⟩ := nameAt?_eq_some h
    exact ⟨name, rest, hname, hrest⟩

theorem not_begins_nil : ¬ Begins [] := by
  rw [begins_iff]
  rintro ⟨name, h⟩
  simp [nameAt?] at h

theorem Begins.append {cs : List Char} (h : Begins cs) (rest : List Char) :
    Begins (cs ++ rest) := by
  obtain ⟨name, tail, hname, rfl⟩ := h
  exact ⟨name, tail ++ rest, hname, by rw [List.append_assoc]⟩

/-- A placeholder that begins before a breaking character ends before it as well. -/
theorem Begins.of_append {c : Char} (hc : Breaks c) {cs rest : List Char}
    (h : Begins (cs ++ c :: rest)) : Begins cs := by
  rw [begins_iff] at h ⊢
  rwa [nameAt?_append hc] at h

/-! ## The cut that the pieces describe -/

/-- Put a character before the first gap. -/
def Cut.cons (c : Char) : Cut → Cut
  | .last gap => .last (String.singleton c ++ gap)
  | .span gap token tail => .span (String.singleton c ++ gap) token tail

/-- The cut with the same gaps and placeholders as the pieces. -/
def cutOf : Template → Cut
  | [] => .last ""
  | .char c :: ps => (cutOf ps).cons c
  | .slot name :: ps => .span "" (.ofList (token name)) (cutOf ps)

theorem Cut.fill_cons (f : String → String) (c : Char) (cut : Cut) :
    (cut.cons c).fill f = String.singleton c ++ cut.fill f := by
  cases cut <;> simp [Cut.cons, Cut.fill, String.append_assoc]

theorem Cut.tokens_cons (c : Char) (cut : Cut) : (cut.cons c).tokens = cut.tokens := by
  cases cut <;> rfl

theorem fill_cutOf (f : String → String) (ps : Template) : (cutOf ps).fill f = fill f ps := by
  induction ps with
  | nil => rfl
  | cons p ps ih =>
    cases p with
    | char c => rw [cutOf, Cut.fill_cons, ih, fill_char]
    | slot name => rw [cutOf, Cut.fill, ih, fill_slot, String.empty_append]

theorem tokens_cutOf (ps : Template) : (cutOf ps).tokens = tokens ps := by
  induction ps with
  | nil => rfl
  | cons p ps ih =>
    cases p with
    | char c => rw [cutOf, Cut.tokens_cons, ih]; rfl
    | slot name => rw [cutOf, Cut.tokens, ih]; rfl

theorem text_cutOf_pieces (skip : Nat) (cs : List Char) :
    (cutOf (pieces skip cs)).text.toList = cs.drop skip := by
  rw [Cut.text, fill_cutOf, fill_id_pieces, String.toList_ofList]

theorem text_cutOf (sql : String) : (cutOf (template sql)).text = sql :=
  String.toList_inj.1 (text_cutOf_pieces 0 sql.toList)

/-! ## There is one leftmost cut -/

/-- A character before which no placeholder begins can be put before a leftmost cut. -/
theorem Cut.Leftmost.cons {c : Char} {cut : Cut} (h : cut.Leftmost)
    (hc : ¬ Begins (c :: cut.text.toList)) : (cut.cons c).Leftmost := by
  cases cut with
  | last gap =>
    intro i
    cases i with
    | zero => simpa [Cut.text, Cut.fill] using hc
    | succ i => simpa using h i
  | span gap token tail =>
    obtain ⟨htoken, hgap, htail⟩ := h
    have htext : ((span gap token tail).cons c).text.toList
        = c :: (span gap token tail).text.toList := by
      simp [Cut.text, Cut.fill_cons]
    refine ⟨htoken, fun i hi => ?_, htail⟩
    change ¬ Begins (((span gap token tail).cons c).text.toList.drop i)
    rw [htext]
    cases i with
    | zero => exact hc
    | succ i =>
      rw [List.drop_succ_cons]
      rw [String.length_append, String.length_singleton] at hi
      exact hgap i (by omega)

theorem leftmost_cutOf_pieces (skip : Nat) (cs : List Char) :
    (cutOf (pieces skip cs)).Leftmost := by
  induction cs generalizing skip with
  | nil =>
    intro i
    simpa using not_begins_nil
  | cons c cs ih =>
    cases skip with
    | succ skip => exact ih skip
    | zero =>
      rw [pieces_cons]
      cases hname : nameAt? (c :: cs) with
      | some name =>
        obtain ⟨-, hword⟩ := nameAt?_eq_some hname
        exact ⟨⟨name, hword, rfl⟩, fun i hi => absurd hi (Nat.not_lt_zero i), ih _⟩
      | none =>
        refine (ih 0).cons ?_
        rw [text_cutOf_pieces, List.drop_zero, begins_iff, hname]
        rintro ⟨name, h⟩
        cases h

/-- The pieces of a text are its leftmost cut. -/
theorem leftmost_cutOf (sql : String) : (cutOf (template sql)).Leftmost :=
  leftmost_cutOf_pieces 0 sql.toList

theorem Cut.text_span (gap token : String) (tail : Cut) :
    (span gap token tail).text = gap ++ token ++ tail.text := rfl

/-- Behind the first gap of a leftmost cut stands its first placeholder. -/
theorem Cut.Leftmost.nameAt?_drop {gap token : String} {tail : Cut}
    (h : (span gap token tail).Leftmost) :
    (nameAt? ((span gap token tail).text.toList.drop gap.length)).map
      (fun name => String.ofList (Placeholder.token name)) = some token := by
  obtain ⟨⟨name, hname, rfl⟩, -, -⟩ := h
  have hdrop : (span gap (.ofList (Placeholder.token name)) tail).text.toList.drop gap.length =
      Placeholder.token name ++ tail.text.toList := by
    rw [Cut.text_span, String.append_assoc, String.toList_append, String.toList_append,
      ← String.length_toList, List.drop_left, String.toList_ofList]
  rw [hdrop, nameAt?_token hname, Option.map_some]

theorem Cut.Leftmost.begins_drop {gap token : String} {tail : Cut}
    (h : (span gap token tail).Leftmost) :
    Begins ((span gap token tail).text.toList.drop gap.length) := by
  obtain ⟨name, hname, -⟩ := Option.map_eq_some_iff.1 h.nameAt?_drop
  exact begins_iff.2 ⟨name, hname⟩

/-- Two leftmost cuts of the same text are the same cut. -/
theorem Cut.Leftmost.unique {a b : Cut} (ha : a.Leftmost) (hb : b.Leftmost)
    (h : a.text = b.text) : a = b := by
  induction a generalizing b with
  | last gap =>
    cases b with
    | last gap' => exact congrArg Cut.last h
    | span gap' token' tail' =>
      have hbegins := hb.begins_drop
      rw [← h] at hbegins
      exact absurd hbegins (ha gap'.length)
  | span gap token tail ih =>
    cases b with
    | last gap' =>
      have hbegins := ha.begins_drop
      rw [h] at hbegins
      exact absurd hbegins (hb gap.length)
    | span gap' token' tail' =>
      -- The first placeholder begins as early in one cut as in the other.
      have hle : gap'.length ≤ gap.length := Nat.not_lt.1 fun hlt =>
        hb.2.1 gap.length hlt (h ▸ ha.begins_drop)
      have hge : gap.length ≤ gap'.length := Nat.not_lt.1 fun hlt =>
        ha.2.1 gap'.length hlt (h ▸ hb.begins_drop)
      have hlen : gap.length = gap'.length := Nat.le_antisymm hge hle
      have htoken : token = token' := by
        have htoken := ha.nameAt?_drop
        rw [h, hlen, hb.nameAt?_drop] at htoken
        exact (Option.some.inj htoken).symm
      have hlist := congrArg String.toList h
      simp only [Cut.text_span, htoken, String.toList_append, List.append_assoc] at hlist
      obtain ⟨hgap, htail⟩ := List.append_inj hlist
        (by rwa [String.length_toList, String.length_toList])
      have htail := String.toList_inj.1 (List.append_cancel_left htail)
      rw [String.toList_inj.1 hgap, htoken, ih ha.2.2 hb.2.2 htail]

/-! ## Marks in the place of placeholders -/

theorem breaks_mark : Breaks '?' := by decide

/-- No placeholder is left where every placeholder gave way to a mark. -/
theorem Cut.Leftmost.marked {c : Cut} (h : c.Leftmost) (i : Nat) :
    ¬ Begins ((c.fill fun _ => "?").toList.drop i) := by
  induction c generalizing i with
  | last gap => exact h i
  | span gap token tail ih =>
    obtain ⟨-, hgap, htail⟩ := h
    have hfill : ((span gap token tail).fill fun _ => "?").toList =
        gap.toList ++ '?' :: (tail.fill fun _ => "?").toList := by
      simp [Cut.fill]
    rw [hfill]
    intro hbegins
    by_cases hi : i ≤ gap.length
    · rw [List.drop_append_of_le_length (by rwa [String.length_toList])] at hbegins
      have hbegins := hbegins.of_append breaks_mark
      by_cases hlt : i < gap.length
      · refine hgap i hlt ?_
        rw [Cut.text_span, String.append_assoc, String.toList_append,
          List.drop_append_of_le_length (by rwa [String.length_toList])]
        exact hbegins.append _
      · obtain rfl : i = gap.length := by omega
        rw [← String.length_toList, List.drop_length] at hbegins
        exact not_begins_nil hbegins
    · obtain ⟨j, rfl⟩ : ∃ j, i = gap.length + (j + 1) := ⟨i - gap.length - 1, by omega⟩
      rw [← String.length_toList, List.drop_append, List.drop_eq_nil_of_le (by omega)] at hbegins
      refine ih htail j ?_
      simpa using hbegins

/-! ## Texts in the place of placeholders, one by one -/

/-- The gaps of a cut with the given texts between them. -/
def Cut.weave : Cut → List String → String
  | last gap, _ => gap
  | span gap token tail, [] => gap ++ token ++ tail.weave []
  | span gap _ tail, t :: ts => gap ++ t ++ tail.weave ts

theorem Cut.weave_map_tokens (f : String → String) (c : Cut) :
    c.weave (c.tokens.map f) = c.fill f := by
  induction c with
  | last gap => rfl
  | span gap token tail ih => rw [Cut.tokens, List.map_cons, Cut.weave, ih, Cut.fill]

end SqlBuilder.Placeholder
