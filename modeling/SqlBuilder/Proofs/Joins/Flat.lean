import SqlBuilder.Proofs.Conditions.Nested
import SqlBuilder.Proofs.Joins.Fields
import SqlBuilder.Proofs.Joins.Reading

/-!
# Conditions of a join without parentheses

The conditions of a join are written without parentheses, in lists to any depth. Only the entries at
the top stand under the connective of the join; everything within an entry is under AND. So the text
is what its leaves are, entry by entry: those with text, with AND between the leaves of an entry and
the connective between the entries (`JoinOn.text_entries`). The lists that the leaves stood in do
not show, and AND binding tighter than OR is all that keeps the entries apart
(`Call.join_on_reads`).
-/

namespace SqlBuilder

/-! ## Leaves -/

namespace JoinOn

mutual

/-- The texts of the leaves, whatever lists they stand in, from left to right. -/
def leafTexts : JoinOn → Render (List String)
  | raw sql => return [sql]
  | list items => leafTextsOfItems items
  | fields f => compareFields false f.entries

def leafTextsOfItems : List JoinOn → Render (List String)
  | [] => return []
  | on :: ons => do
    let first ← leafTexts on
    return first ++ (← leafTextsOfItems ons)

end

/-- The leaves of each entry at the top: of an element of a list, or of a field on its own. -/
def entries : JoinOn → Render (List (List String))
  | raw sql => return [[sql]]
  | list items => items.mapM leafTexts
  | fields f => do return (← compareFields false f.entries).map fun text => [text]

/-! ## Texts put together -/

/-- The parts that have text. -/
def present (parts : List String) : List String := parts.filter (· ≠ "")

/-- The parts that have text of each entry, if it has such parts. -/
def groups (entries : List (List String)) : List (List String) :=
  (entries.map present).filter (· ≠ [])

theorem groups_cons (parts : List String) (entries : List (List String)) :
    groups (parts :: entries) =
      if present parts = [] then groups entries else present parts :: groups entries := by
  rw [groups, List.map_cons, List.filter_cons, groups]
  by_cases hparts : present parts = []
  · simp [hparts]
  · simp [hparts]

theorem flatten_groups (entries : List (List String)) :
    (groups entries).flatten = present entries.flatten := by
  induction entries with
  | nil => rfl
  | cons parts entries ih =>
    have happend : present (parts :: entries).flatten = present parts ++ present entries.flatten :=
      List.filter_append _ _
    rw [groups_cons, happend, ← ih]
    by_cases hparts : present parts = []
    · rw [if_pos hparts, hparts, List.nil_append]
    · rw [if_neg hparts, List.flatten_cons]

theorem ne_nil_of_mem_groups {entries : List (List String)} {group : List String}
    (h : group ∈ groups entries) : group ≠ [] := by
  simpa using List.of_mem_filter h

theorem ne_empty_of_mem_present {parts : List String} {part : String} (h : part ∈ present parts) :
    part ≠ "" := by
  simpa using List.of_mem_filter h

theorem intercalate_ne_empty {connective : String} {parts : List String} (h : parts ≠ [])
    (hparts : ∀ part ∈ parts, part ≠ "") :
    (" " ++ connective ++ " ").intercalate parts ≠ "" := by
  match parts with
  | [] => exact absurd rfl h
  | [part] =>
    rw [String.intercalate_singleton]
    exact hparts part (List.mem_singleton_self part)
  | part :: next :: rest =>
    rw [String.intercalate_cons_cons]
    simp

/-- An entry has text just if one of its parts has. -/
theorem present_map_joined (connective : String) (entries : List (List String)) :
    present (entries.map (joined connective)) =
      (groups entries).map (" " ++ connective ++ " ").intercalate := by
  induction entries with
  | nil => rfl
  | cons parts entries ih =>
    have hcons (text : String) (texts : List String) :
        present (text :: texts) = if text = "" then present texts else text :: present texts := by
      by_cases htext : text = "" <;> simp [present, htext]
    rw [List.map_cons, hcons, ih, groups_cons]
    by_cases hparts : present parts = []
    · have hempty : joined connective parts = "" :=
        congrArg (" " ++ connective ++ " ").intercalate hparts
      rw [if_pos hempty, if_pos hparts]
    · have hne : joined connective parts ≠ "" :=
        intercalate_ne_empty hparts fun _ => ne_empty_of_mem_present
      rw [if_neg hne, if_neg hparts, List.map_cons]
      rfl

/-- Parts may be put together group by group. -/
theorem intercalate_flatten (separator : String) {groups : List (List String)}
    (h : ∀ group ∈ groups, group ≠ []) :
    separator.intercalate (groups.map separator.intercalate) =
      separator.intercalate groups.flatten := by
  induction groups with
  | nil => rfl
  | cons first rest ih =>
    obtain ⟨hfirst, hrest⟩ := List.forall_mem_cons.1 h
    cases rest with
    | nil => rw [List.map_singleton, String.intercalate_singleton, List.flatten_singleton]
    | cons next rest =>
      have hne : (next :: rest).flatten ≠ [] := fun hnil =>
        hrest next List.mem_cons_self (List.flatten_eq_nil_iff.1 hnil next List.mem_cons_self)
      rw [List.map_cons, String.intercalate_cons_of_ne_nil (by simp), ih hrest,
        List.flatten_cons (l := first), String.intercalate_append_of_ne_nil hfirst hne]

/-- Lists within lists are put together as one list. -/
theorem joined_flatten (connective : String) (entries : List (List String)) :
    joined connective (entries.map (joined connective)) = joined connective entries.flatten := by
  change (" " ++ connective ++ " ").intercalate (present _) = _
  rw [present_map_joined, intercalate_flatten _ fun _ => ne_nil_of_mem_groups, flatten_groups]
  rfl

theorem joined_singleton (connective text : String) : joined connective [text] = text := by
  by_cases htext : text = ""
  · simp [joined, htext]
  · simp [joined, htext]

/-! ## The text of the conditions -/

mutual

/-- The text of an entry is made of its leaves. -/
theorem text_eq_leafTexts : (on : JoinOn) → text Connective.and.keyword on =
    (do return joined Connective.and.keyword (← leafTexts on))
  | raw sql => by
    simp only [text, leafTexts, pure_bind, joined_singleton]
  | list items => by
    rw [text, leafTexts, texts_eq_leafTexts items, leafTextsOfItems_eq items]
    simp only [bind_assoc, pure_bind, joined_flatten]
  | fields f => by rw [text, leafTexts]

theorem texts_eq_leafTexts : (ons : List JoinOn) → texts ons =
    (do return (← ons.mapM leafTexts).map (joined Connective.and.keyword))
  | [] => rfl
  | on :: ons => by
    rw [texts, text_eq_leafTexts on, texts_eq_leafTexts ons, List.mapM_cons]
    simp only [bind_assoc, pure_bind, List.map_cons]

theorem leafTextsOfItems_eq : (ons : List JoinOn) → leafTextsOfItems ons =
    (do return (← ons.mapM leafTexts).flatten)
  | [] => rfl
  | on :: ons => by
    rw [leafTextsOfItems, leafTextsOfItems_eq ons, List.mapM_cons]
    simp only [bind_assoc, pure_bind, List.flatten_cons]

end

/-- The entries stand under the connective, and the leaves of an entry under AND. -/
theorem text_entries (connective : String) (on : JoinOn) :
    text connective on = (do
      return joined connective ((← entries on).map (joined Connective.and.keyword))) := by
  cases on with
  | raw sql =>
    simp only [text, entries, pure_bind, List.map_singleton, joined_singleton]
  | list items =>
    rw [text, entries, texts_eq_leafTexts]
    simp only [bind_assoc, pure_bind]
  | fields f =>
    have hsingle (texts : List String) :
        (texts.map fun text => [text]).map (joined Connective.and.keyword) = texts := by
      rw [List.map_map]
      exact List.map_id'' (fun text => joined_singleton _ text) texts
    rw [text, entries]
    simp only [bind_assoc, pure_bind, hsingle]

/-! ## Reading the text -/

/-- What entries stand for: the connective puts them together, and AND the leaves of each that have
text. -/
def meaning (connective : Connective) (entries : List (List String)) : Formula String :=
  .group connective (entries.map fun parts => .group .and ((present parts).map .atom))

/-- The lexemes of entries. -/
def spelled (connective : Connective) (entries : List (List String)) : List Lexeme :=
  Lexeme.separated connective
    ((groups entries).map fun parts => Lexeme.separated .and (parts.map fun part => [.atom part]))

theorem run_atoms (parts : List String) :
    Lexeme.run (Lexeme.separated .and (parts.map fun part => [.atom part])) =
      (" " ++ Connective.and.keyword ++ " ").intercalate parts := by
  have hatom (part : String) : Lexeme.run [.atom part] = part := String.append_empty
  rw [Lexeme.run_separated, List.map_map]
  exact congrArg _ (List.map_id'' hatom parts)

theorem run_spelled (connective : Connective) (entries : List (List String)) :
    Lexeme.run (spelled connective entries) =
      joined connective.keyword (entries.map (joined Connective.and.keyword)) := by
  rw [spelled, Lexeme.run_separated, List.map_map, joined, ← present, present_map_joined]
  exact congrArg _ (List.map_congr_left fun parts _ => run_atoms parts)

theorem filterMap_spelled (connective : Connective) (entries : List (List String)) :
    (spelled connective entries).filterMap Lexeme.atom? = present entries.flatten := by
  have hparts (parts : List String) :
      (Lexeme.separated .and (parts.map fun part => [.atom part])).filterMap Lexeme.atom? =
        parts := by
    rw [Lexeme.filterMap_separated, List.flatMap_map]
    exact List.flatMap_singleton' parts
  rw [spelled, Lexeme.filterMap_separated, List.flatMap_map, ← flatten_groups,
    ← List.flatMap_id]
  exact List.flatMap_congr fun parts _ => hparts parts

/-- Opaque leaves are found in the text again. -/
theorem lexemes?_spelled (connective : Connective) {entries : List (List String)}
    (h : ∀ part ∈ present entries.flatten, Opaque part) :
    lexemes? (Lexeme.run (spelled connective entries)) = some (spelled connective entries) := by
  by_cases hnone : groups entries = []
  · rw [spelled, hnone]
    rfl
  · have hparts : ∀ parts ∈ groups entries,
        Alternating (Lexeme.separated .and (parts.map fun part => [.atom part])) := by
      intro parts hmem
      refine .separated .and (by simpa using ne_nil_of_mem_groups hmem) fun ls hls => ?_
      obtain ⟨part, hpart, rfl⟩ := List.mem_map.1 hls
      rw [← flatten_groups] at h
      exact .atom (h part (List.mem_flatten_of_mem hmem hpart))
    refine (Alternating.separated connective (by simpa using hnone) fun ls hls => ?_).lexemes?_run
    obtain ⟨parts, hmem, rfl⟩ := List.mem_map.1 hls
    exact hparts parts hmem

section Reads

variable {V : String → Bool}

/-- The parts of an entry are read as the value of its group. -/
theorem reads_parts {parts : List String} (h : parts ≠ []) :
    Reads V (Lexeme.separated .and (parts.map fun part => [.atom part]))
      (Connective.and.holds (parts.map V)) := by
  have hatoms : List.Forall₂ (Reads V) (parts.map fun part => [.atom part]) (parts.map V) := by
    rw [List.forall₂_map_left_iff, List.forall₂_map_right_iff]
    exact List.forall₂_same.2 fun part _ _ _ _ => rfl
  cases parts with
  | nil => exact absurd rfl h
  | cons part parts => exact reads_separated_and hatoms

theorem values_entries (entries : List (List String)) :
    Formula.values V (entries.map fun parts => .group .and ((present parts).map .atom)) =
      (groups entries).map fun parts => Connective.and.holds (parts.map V) := by
  induction entries with
  | nil => rfl
  | cons parts entries ih =>
    rw [List.map_cons, Formula.values, ih, groups_cons, Formula.value, Formula.values_map_atom]
    by_cases hparts : present parts = []
    · rw [if_pos hparts, hparts]
      rfl
    · have hne : (present parts).map V ≠ [] := by simpa using hparts
      rw [if_neg hparts, List.map_cons, Connective.verdict_of_ne_nil hne]
      rfl

/-- The lexemes of entries are read as what the entries stand for. -/
theorem read_spelled (connective : Connective) (entries : List (List String)) :
    read V (spelled connective entries) = (meaning connective entries).value V := by
  have hreads : List.Forall₂ (Reads V)
      ((groups entries).map fun parts => Lexeme.separated .and (parts.map fun part => [.atom part]))
      ((groups entries).map fun parts => Connective.and.holds (parts.map V)) := by
    rw [List.forall₂_map_left_iff, List.forall₂_map_right_iff]
    exact List.forall₂_same.2 fun parts hmem => reads_parts (ne_nil_of_mem_groups hmem)
  rw [meaning, Formula.value, values_entries, spelled, read_separated connective hreads]

end Reads

end JoinOn

/-! ## Calls -/

/-- **The conditions of a join need no parentheses.** Once the target of a join is written, either
its conditions cannot be written and the call is refused, or the call adds a join on a text. If the
leaves that have text are opaque, that text divides into just these leaves and the connectives
between them, each leaf once and in order; and read with AND before OR it has the value of the
entries at the top under the connective of the join, each of which is all its leaves under AND. -/
theorem Call.join_on_reads {o : JoinOptions Query} {on : JoinOn} (hon : o.on = some on)
    (husing : o.usingColumns = []) {connective : Connective}
    (hconnective : o.onConnective.getD "AND" = connective.keyword) {d : Draft}
    {target : List String} {b : Binder}
    (htarget : Join.targetParts o.aliasName o.target d.binder = (.ok target, b))
    (kind : Option JoinKind) :
    match on.entries b with
    | (.error f, c) => (join kind (.options o)).run d = (.error f, d.withBinder c)
    | (.ok entries, c) => ∃ text,
      (join kind (.options o)).run d =
        (.ok none, (d.withBinder c).withJoin (joinText kind o target text)) ∧
      ((∀ leaf ∈ entries.flatten, leaf ≠ "" → Opaque leaf) →
        ∃ ls, lexemes? text = some ls ∧
          ls.filterMap Lexeme.atom? = entries.flatten.filter (· ≠ "") ∧
          ∀ V, read V ls = (JoinOn.meaning connective entries).value V) := by
  have hkeyword : o.onConnective.getD Connective.and.keyword = connective.keyword := hconnective
  rw [run_join_on hon husing htarget, hkeyword, JoinOn.text_entries]
  rcases hentries : on.entries b with ⟨f | entries, c⟩
  · rw [bind_of_error hentries]
  · rw [bind_of_ok hentries]
    refine ⟨_, rfl, fun hopaque => ⟨JoinOn.spelled connective entries, ?_, ?_, fun V => ?_⟩⟩
    · rw [← JoinOn.run_spelled]
      refine JoinOn.lexemes?_spelled connective fun leaf hleaf => ?_
      exact hopaque leaf (List.mem_of_mem_filter hleaf) (JoinOn.ne_empty_of_mem_present hleaf)
    · exact JoinOn.filterMap_spelled connective entries
    · exact JoinOn.read_spelled connective entries

/-- One condition, or three that a list within a list and an object bring together; and a list that
says nothing. -/
def eitherOrThree : JoinOn :=
  .list [.raw "t.id = 1",
    .list [.raw "", .list [.raw "t.note LIKE '% or %'"],
      .fields ⟨[("t.c", .value (.text "u.and")), ("not", .value (.bool true)),
        ("u.kind", .list [.value (.int 2), .value (.int 3)])]⟩],
    .list [.list [], .raw ""]]

def onEitherOrThree : JoinOptions Query :=
  { target := some (.table "u"), on := some eitherOrThree, onConnective := some "OR" }

/-- The text of these conditions. -/
def eitherOrThreeText : String :=
  "t.id = 1 OR t.note LIKE '% or %' AND t.c = u.and AND u.kind NOT IN ( {{binding1}}, {{binding2}} )"

theorem Call.join_on_reads_eitherOrThree :
    onEitherOrThree.onConnective.getD "AND" = Connective.or.keyword ∧
      ((join none (.options onEitherOrThree)).run ⟨{}, 0, []⟩).2.query.joins =
        ["JOIN u ON (" ++ eitherOrThreeText ++ ")"] ∧
      ∃ ls, lexemes? eitherOrThreeText = some ls ∧
        ∀ V, read V ls = some (V "t.id = 1" || (V "t.note LIKE '% or %'" &&
          (V "t.c = u.and" && V "u.kind NOT IN ( {{binding1}}, {{binding2}} )"))) := by
  have hentries : (eitherOrThree.entries (Draft.binder ⟨{}, 0, []⟩)).1.toOption = some
      [["t.id = 1"],
        ["", "t.note LIKE '% or %'", "t.c = u.and", "u.kind NOT IN ( {{binding1}}, {{binding2}} )"],
        [""]] := by
    decide +kernel
  have hjoins : ((join none (.options onEitherOrThree)).run ⟨{}, 0, []⟩).2.query.joins =
      [joinText none onEitherOrThree ["u"] eitherOrThreeText] := by
    decide +kernel
  have h := join_on_reads (rfl : onEitherOrThree.on = _) rfl
    (rfl : _ = Connective.or.keyword)
    (rfl : Join.targetParts _ _ (Draft.binder ⟨{}, 0, []⟩) = (.ok ["u"], _)) none
  rcases hrun : eitherOrThree.entries (Draft.binder ⟨{}, 0, []⟩) with ⟨f | entries, c⟩
  · rw [hrun] at hentries
    cases hentries
  · rw [hrun] at h hentries
    cases hentries
    obtain ⟨text, hcall, hreads⟩ := h
    obtain ⟨ls, hls, -, hread⟩ := hreads (by decide +kernel)
    have htext : text = eitherOrThreeText := by
      rw [hcall] at hjoins
      have hsame := List.singleton_inj.1 hjoins
      simpa [joinText, spaced, onEitherOrThree] using hsame
    rw [htext] at hls
    refine ⟨rfl, hjoins.trans ?_, ls, hls, fun V => (hread V).trans ?_⟩
    · decide +kernel
    · simp [JoinOn.meaning, JoinOn.present, Formula.value, Formula.values, Connective.verdict,
        Connective.holds]

end SqlBuilder
