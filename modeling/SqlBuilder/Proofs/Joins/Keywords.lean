import Mathlib.Data.List.DropRight
import Mathlib.Data.List.TakeWhile
import SqlBuilder.Proofs.Joins.Fields

/-!
# The keywords of a join string

What a join string may begin with is said here without saying how it is found: blanks, and then a
run of words for the kind and the word JOIN, each with blanks behind it (`Join.Run`,
`Join.Opening`). No keyword has a blank in it, so where a word ends is settled by the text, and only
one word can stand there. Hence the search finds an opening wherever there is one, and drops the
longest (`Join.dropKeywords?_eq_some_iff`).

A text that was written for a kind begins with an opening of its own, behind which stands what the
string had behind its opening (`Join.dropKeywords?_rawText`). So only the last kind shows
(`Call.last_kind_wins`).
-/

namespace SqlBuilder

open Text

/-! ## Blanks -/

namespace Text

/-- Blanks at the start are skipped once and for all. -/
theorem skipBlanks_skipBlanks (cs : List Char) : skipBlanks (skipBlanks cs) = skipBlanks cs :=
  List.dropWhile_idempotent isBlank cs

theorem skipBlanks_eq_self_iff {cs : List Char} :
    skipBlanks cs = cs ↔ ∀ c ∈ cs.head?, isBlank c = false := by
  cases cs with
  | nil => simp [skipBlanks]
  | cons c cs => simp [skipBlanks, List.dropWhile_eq_self_iff]

theorem skipBlanks_append_of_blank {blanks : List Char} (h : ∀ c ∈ blanks, isBlank c)
    (cs : List Char) : skipBlanks (blanks ++ cs) = skipBlanks cs :=
  List.dropWhile_append_of_pos h

/-- Some blanks and what is left behind them. -/
theorem takeWhile_append_skipBlanks (cs : List Char) :
    cs.takeWhile isBlank ++ skipBlanks cs = cs :=
  List.takeWhile_append_dropWhile

end Text

namespace Join

/-! ## Words -/

/-- One or more blanks. -/
def IsGap (cs : List Char) : Prop := cs ≠ [] ∧ ∀ c ∈ cs, isBlank c

theorem IsGap.append {gap blanks : List Char} (h : IsGap gap) (hblanks : ∀ c ∈ blanks, isBlank c) :
    IsGap (gap ++ blanks) :=
  ⟨List.append_ne_nil_of_left_ne_nil h.1 _, List.forall_mem_append.2 ⟨h.2, hblanks⟩⟩

theorem dropWord?_eq_some_iff {word cs rest : List Char} :
    dropWord? word cs = some rest ↔ ∃ front, front.map fold = word ∧ cs = front ++ rest := by
  constructor
  · intro h
    induction word generalizing cs with
    | nil => exact ⟨[], rfl, Option.some.inj h⟩
    | cons w ws ih =>
      cases cs with
      | nil => cases h
      | cons c cs =>
        unfold dropWord? at h
        split at h
        · rename_i hc
          obtain ⟨front, hfront, rfl⟩ := ih h
          exact ⟨c :: front, by rw [List.map_cons, hc, hfront], rfl⟩
        · cases h
  · rintro ⟨front, rfl, rfl⟩
    induction front with
    | nil => rfl
    | cons c front ih => rw [List.map_cons, List.cons_append, dropWord?, if_pos rfl, ih]

theorem dropKeyword?_eq_some_iff {word cs rest : List Char} :
    dropKeyword? word cs = some rest ↔
      (∃ front gap, front.map fold = word ∧ IsGap gap ∧ cs = front ++ gap ++ rest) ∧
        skipBlanks rest = rest := by
  constructor
  · intro h
    unfold dropKeyword? at h
    split at h
    · rename_i c tail hword
      split at h
      · rename_i hc
        obtain rfl := Option.some.inj h
        obtain ⟨front, hfront, rfl⟩ := dropWord?_eq_some_iff.1 hword
        have hone : IsGap [c] := ⟨by simp, by simpa using hc⟩
        have hgap : IsGap (c :: tail.takeWhile isBlank) :=
          hone.append fun b hb => List.mem_takeWhile_imp hb
        refine ⟨⟨front, _, hfront, hgap, ?_⟩, skipBlanks_skipBlanks tail⟩
        rw [List.append_assoc, List.cons_append, takeWhile_append_skipBlanks]
      · cases h
    · cases h
  · rintro ⟨⟨front, gap, hfront, ⟨hne, hgap⟩, rfl⟩, hrest⟩
    cases gap with
    | nil => exact absurd rfl hne
    | cons c gap =>
      obtain ⟨hc, hgap⟩ := List.forall_mem_cons.1 hgap
      have hword : dropWord? word (front ++ c :: gap ++ rest) = some (c :: (gap ++ rest)) :=
        dropWord?_eq_some_iff.2 ⟨front, hfront, by simp⟩
      unfold dropKeyword?
      rw [hword]
      change (if isBlank c then some (skipBlanks (gap ++ rest)) else none) = some rest
      rw [if_pos hc, skipBlanks_append_of_blank hgap, hrest]

/-! ## No two words fit -/

/-- No letter of a keyword is blank. -/
theorem fold_not_mem_of_isBlank {c : Char} (h : isBlank c = true) :
    ∀ word ∈ joinWord :: kindWords, fold c ∉ word := by
  refine forall_of_isBlank (P := fun c => ∀ word ∈ joinWord :: kindWords, fold c ∉ word) ?_ h
  decide +kernel

theorem isBlank_of_mem_keyword {front : List Char} (h : front.map fold ∈ joinWord :: kindWords) :
    ∀ c ∈ front, isBlank c = false := by
  intro c hc
  by_contra hblank
  exact fold_not_mem_of_isBlank (by simpa using hblank) _ h (List.mem_map_of_mem hc)

/-- A keyword goes as far as the first blank. -/
theorem takeWhile_of_keyword {front gap : List Char}
    (hfront : front.map fold ∈ joinWord :: kindWords) (hgap : IsGap gap) (rest : List Char) :
    (front ++ gap ++ rest).takeWhile (fun c => !isBlank c) = front := by
  have hletters : ∀ c ∈ front, (!isBlank c) = true := fun c hc => by
    rw [isBlank_of_mem_keyword hfront c hc]
    rfl
  obtain ⟨hne, hblank⟩ := hgap
  cases gap with
  | nil => exact absurd rfl hne
  | cons c gap =>
    have hc : isBlank c = true := hblank c List.mem_cons_self
    rw [List.append_assoc, List.takeWhile_append_of_pos hletters, List.cons_append,
      List.takeWhile_cons_of_neg (by simp [hc]), List.append_nil]

/-- The text settles which keyword stands there. -/
theorem eq_of_dropKeyword? {word word' cs rest rest' : List Char}
    (hword : word ∈ joinWord :: kindWords) (hword' : word' ∈ joinWord :: kindWords)
    (h : dropKeyword? word cs = some rest) (h' : dropKeyword? word' cs = some rest') :
    word = word' := by
  obtain ⟨⟨front, gap, rfl, hgap, hcs⟩, -⟩ := dropKeyword?_eq_some_iff.1 h
  obtain ⟨⟨front', gap', rfl, hgap', hcs'⟩, -⟩ := dropKeyword?_eq_some_iff.1 h'
  rw [← takeWhile_of_keyword hword hgap rest, ← takeWhile_of_keyword hword' hgap' rest', ← hcs,
    ← hcs']

theorem dropAny?_eq_some_iff {words : List (List Char)} (hwords : words ⊆ joinWord :: kindWords)
    {cs rest : List Char} :
    dropAny? cs words = some rest ↔ ∃ word ∈ words, dropKeyword? word cs = some rest := by
  induction words with
  | nil => simp [dropAny?]
  | cons word words ih =>
    obtain ⟨hword, hwords⟩ := List.cons_subset.1 hwords
    rw [dropAny?, Option.or_eq_some_iff, ih hwords]
    constructor
    · rintro (h | ⟨-, other, hother, h⟩)
      · exact ⟨word, List.mem_cons_self, h⟩
      · exact ⟨other, List.mem_cons_of_mem _ hother, h⟩
    · rintro ⟨other, hother, h⟩
      rcases hfirst : dropKeyword? word cs with _ | rest'
      · rcases List.mem_cons.1 hother with rfl | hother
        · rw [hfirst] at h
          cases h
        · exact .inr ⟨rfl, other, hother, h⟩
      · have hother : other ∈ joinWord :: kindWords :=
          (List.mem_cons.1 hother).elim (fun heq => heq ▸ hword) fun hmem => hwords hmem
        obtain rfl := eq_of_dropKeyword? hword hother hfirst h
        exact .inl (hfirst.symm.trans h)

/-- Where the word JOIN stands, no word for the kind does. -/
theorem dropAny?_of_join {cs rest : List Char} (h : dropKeyword? joinWord cs = some rest) :
    dropAny? cs kindWords = none := by
  refine Option.eq_none_iff_forall_ne_some.2 fun other hother => ?_
  obtain ⟨word, hword, hdrop⟩ :=
    (dropAny?_eq_some_iff (List.subset_cons_self _ _)).1 hother
  have heq := eq_of_dropKeyword? List.mem_cons_self (List.mem_cons_of_mem _ hword) h hdrop
  rw [← heq] at hword
  exact absurd hword (by decide)

/-! ## Runs -/

/-- Words for the kind of a join and then the word JOIN, each with blanks behind it. -/
inductive Run : List Char → Prop where
  | join {front gap : List Char} (hfront : front.map fold = joinWord) (hgap : IsGap gap) :
    Run (front ++ gap)
  | kind {front gap run : List Char} (hfront : front.map fold ∈ kindWords) (hgap : IsGap gap)
    (hrun : Run run) : Run (front ++ gap ++ run)

/-- What a join string may begin with. -/
def Opening (cs : List Char) : Prop :=
  ∃ blanks run, (∀ c ∈ blanks, isBlank c) ∧ Run run ∧ cs = blanks ++ run

theorem Run.append_blanks {run blanks : List Char} (h : Run run)
    (hblanks : ∀ c ∈ blanks, isBlank c) : Run (run ++ blanks) := by
  induction h with
  | join hfront hgap =>
    rw [List.append_assoc]
    exact .join hfront (hgap.append hblanks)
  | kind hfront hgap _ ih =>
    rw [List.append_assoc]
    exact .kind hfront hgap ih

theorem skipBlanks_of_keyword {front : List Char} (h : front.map fold ∈ joinWord :: kindWords)
    (cs : List Char) : skipBlanks (front ++ cs) = front ++ cs := by
  cases front with
  | nil => exact absurd h (by decide)
  | cons c front =>
    refine skipBlanks_eq_self_iff.2 fun b hb => ?_
    obtain rfl := Option.some.inj hb
    exact isBlank_of_mem_keyword h c List.mem_cons_self

/-- A run begins with a letter. -/
theorem Run.skipBlanks_append {run : List Char} (h : Run run) (rest : List Char) :
    skipBlanks (run ++ rest) = run ++ rest := by
  cases h with
  | join hfront =>
    rw [List.append_assoc]
    exact skipBlanks_of_keyword (hfront ▸ List.mem_cons_self) _
  | kind hfront =>
    rw [List.append_assoc, List.append_assoc]
    exact skipBlanks_of_keyword (List.mem_cons_of_mem _ hfront) _

theorem dropRun?_of_some {cs rest : List Char} (h : dropAny? cs kindWords = some rest) :
    dropRun? cs = dropRun? rest := by
  conv_lhs => unfold dropRun?
  split
  · rename_i other hother
    rw [Option.some.inj (h.symm.trans hother)]
  · rename_i hnone
    rw [h] at hnone
    cases hnone

theorem dropRun?_of_none {cs : List Char} (h : dropAny? cs kindWords = none) :
    dropRun? cs = dropKeyword? joinWord cs := by
  conv_lhs => unfold dropRun?
  split
  · rename_i other hother
    rw [h] at hother
    cases hother
  · rfl

theorem dropRun?_append {run rest : List Char} (h : Run run) (hrest : skipBlanks rest = rest) :
    dropRun? (run ++ rest) = some rest := by
  induction h with
  | join hfront hgap =>
    have hdrop := dropKeyword?_eq_some_iff.2 ⟨⟨_, _, hfront, hgap, rfl⟩, hrest⟩
    rw [dropRun?_of_none (dropAny?_of_join hdrop), hdrop]
  | @kind front gap run hfront hgap hrun ih =>
    have hdrop := dropKeyword?_eq_some_iff.2
      ⟨⟨front, gap, rfl, hgap, rfl⟩, hrun.skipBlanks_append rest⟩
    rw [List.append_assoc, dropRun?_of_some ((dropAny?_eq_some_iff (List.subset_cons_self _ _)).2
      ⟨_, hfront, hdrop⟩), ih]

/-- What is left behind a run does not begin with a blank. -/
theorem dropRun?_eq_some_iff {cs rest : List Char} :
    dropRun? cs = some rest ↔
      (∃ run, Run run ∧ cs = run ++ rest) ∧ skipBlanks rest = rest := by
  refine ⟨fun h => ?_, fun ⟨⟨run, hrun, hcs⟩, hrest⟩ => hcs ▸ dropRun?_append hrun hrest⟩
  induction cs using dropRun?.induct with
  | case1 cs middle hmiddle ih =>
    rw [dropRun?_of_some hmiddle] at h
    obtain ⟨⟨run, hrun, rfl⟩, hrest⟩ := ih h
    obtain ⟨word, hword, hdrop⟩ := (dropAny?_eq_some_iff (List.subset_cons_self _ _)).1 hmiddle
    obtain ⟨⟨front, gap, rfl, hgap, rfl⟩, -⟩ := dropKeyword?_eq_some_iff.1 hdrop
    exact ⟨⟨_, .kind hword hgap hrun, (List.append_assoc ..).symm⟩, hrest⟩
  | case2 cs hnone =>
    rw [dropRun?_of_none hnone] at h
    obtain ⟨⟨front, gap, hfront, hgap, rfl⟩, hrest⟩ := dropKeyword?_eq_some_iff.1 h
    exact ⟨⟨_, .join hfront hgap, rfl⟩, hrest⟩

/-! ## Openings -/

theorem Opening.append_blanks {opening blanks : List Char} (h : Opening opening)
    (hblanks : ∀ c ∈ blanks, isBlank c) : Opening (opening ++ blanks) := by
  obtain ⟨before, run, hbefore, hrun, rfl⟩ := h
  exact ⟨before, run ++ blanks, hbefore, hrun.append_blanks hblanks, List.append_assoc ..⟩

theorem dropKeywords?_eq_some_iff {sql rest : String} :
    dropKeywords? sql = some rest ↔
      (∃ opening, Opening opening ∧ sql.toList = opening ++ rest.toList) ∧
        skipBlanks rest.toList = rest.toList := by
  constructor
  · intro h
    obtain ⟨cs, hcs, rfl⟩ := Option.map_eq_some_iff.1 h
    obtain ⟨⟨run, hrun, heq⟩, hrest⟩ := dropRun?_eq_some_iff.1 hcs
    rw [String.toList_ofList]
    refine ⟨⟨_, ⟨sql.toList.takeWhile isBlank, run, fun c hc => List.mem_takeWhile_imp hc, hrun,
      rfl⟩, ?_⟩, hrest⟩
    rw [List.append_assoc, ← heq, takeWhile_append_skipBlanks]
  · rintro ⟨⟨_, ⟨blanks, run, hblanks, hrun, rfl⟩, heq⟩, hrest⟩
    have hskip : skipBlanks sql.toList = run ++ rest.toList := by
      rw [heq, List.append_assoc, skipBlanks_append_of_blank hblanks, hrun.skipBlanks_append]
    rw [dropKeywords?, hskip, dropRun?_append hrun hrest, Option.map_some, String.ofList_toList]

/-- Behind an opening, blanks are dropped with it. -/
theorem dropKeywords?_append {opening : String} (h : Opening opening.toList) (sql : String) :
    dropKeywords? (opening ++ sql) = some (.ofList (skipBlanks sql.toList)) := by
  have hopening : Opening (opening.toList ++ sql.toList.takeWhile isBlank) :=
    h.append_blanks fun c hc => List.mem_takeWhile_imp hc
  refine dropKeywords?_eq_some_iff.2 ⟨⟨_, hopening, ?_⟩, ?_⟩
  · rw [String.toList_append, String.toList_ofList, List.append_assoc,
      takeWhile_append_skipBlanks]
  · rw [String.toList_ofList, skipBlanks_skipBlanks]

/-- A string has no keywords to drop just if it does not begin with an opening. -/
theorem dropKeywords?_eq_none_iff {sql : String} :
    dropKeywords? sql = none ↔ ∀ opening, Opening opening → ¬ opening <+: sql.toList := by
  constructor
  · rintro h opening hopening ⟨rest, hrest⟩
    have hsql : sql = String.ofList opening ++ String.ofList rest :=
      String.toList_injective (by simp [hrest])
    rw [hsql, dropKeywords?_append (by simpa using hopening)] at h
    cases h
  · intro h
    refine Option.eq_none_iff_forall_ne_some.2 fun rest hrest => ?_
    obtain ⟨⟨opening, hopening, heq⟩, -⟩ := dropKeywords?_eq_some_iff.1 hrest
    exact h opening hopening ⟨_, heq.symm⟩

theorem isGap_blank : IsGap [' '] :=
  ⟨List.cons_ne_nil _ _, List.forall_mem_singleton.2 (by decide)⟩

theorem run_join : Run "JOIN ".toList :=
  have hword : "JOIN".toList.map fold = joinWord := by decide
  .join hword isGap_blank

theorem opening_join : Opening "JOIN ".toList := ⟨[], _, by simp, run_join, rfl⟩

theorem opening_keyword (k : JoinKind) : Opening (k.keyword ++ " JOIN ").toList := by
  have hkind : k.keyword.toList.map fold ∈ kindWords := by cases k <;> decide
  refine ⟨[], _, by simp, .kind hkind isGap_blank run_join, ?_⟩
  rw [String.toList_append, List.append_assoc]
  rfl

/-! ## Texts for a kind -/

/-- A join string without the keywords it begins with. -/
def bare (sql : String) : String := (dropKeywords? sql).getD sql

/-- What a join string joins: what is behind its opening, or all of it if it has none. -/
def Joins (sql target : String) : Prop :=
  ((∃ opening, Opening opening ∧ sql.toList = opening ++ target.toList) ∧
      ∀ c ∈ target.toList.head?, isBlank c = false) ∨
    (target = sql ∧ ∀ opening, Opening opening → ¬ opening <+: sql.toList)

theorem joins_bare (sql : String) : Joins sql (bare sql) := by
  rcases hdrop : dropKeywords? sql with _ | rest
  · exact .inr ⟨by rw [bare, hdrop, Option.getD_none], dropKeywords?_eq_none_iff.1 hdrop⟩
  · obtain ⟨hopening, hrest⟩ := dropKeywords?_eq_some_iff.1 hdrop
    rw [bare, hdrop, Option.getD_some]
    exact .inl ⟨hopening, skipBlanks_eq_self_iff.1 hrest⟩

theorem rawText_some (k : JoinKind) (sql : String) :
    rawText (some k) sql = k.keyword ++ " JOIN " ++ bare sql := rfl

theorem rawText_none_of_some {sql rest : String} (h : dropKeywords? sql = some rest) :
    rawText none sql = sql := by
  simp only [rawText, h]

theorem rawText_none_of_none {sql : String} (h : dropKeywords? sql = none) :
    rawText none sql = "JOIN " ++ bare sql := by
  simp only [rawText, bare, h, Option.getD_none]

/-- Whatever the kind, the text for it begins with an opening, and behind that stands what the
string joins. -/
theorem dropKeywords?_rawText (kind : Option JoinKind) (sql : String) :
    dropKeywords? (rawText kind sql) = some (.ofList (skipBlanks (bare sql).toList)) := by
  cases kind with
  | some k => exact dropKeywords?_append (opening_keyword k) _
  | none =>
    rcases hdrop : dropKeywords? sql with _ | rest
    · rw [rawText_none_of_none hdrop]
      exact dropKeywords?_append opening_join _
    · rw [rawText_none_of_some hdrop, bare, hdrop, Option.getD_some,
        (dropKeywords?_eq_some_iff.1 hdrop).2, String.ofList_toList]

/-- What a string joins begins with a blank only if the string does. -/
theorem skipBlanks_bare {sql : String} (h : ∀ c ∈ sql.toList.head?, isBlank c = false) :
    skipBlanks (bare sql).toList = (bare sql).toList := by
  rcases joins_bare sql with ⟨-, hhead⟩ | ⟨heq, -⟩
  · exact skipBlanks_eq_self_iff.2 hhead
  · rw [heq, skipBlanks_eq_self_iff.2 h]

theorem rawText_none_rawText (kind : Option JoinKind) (sql : String) :
    rawText none (rawText kind sql) = rawText kind sql :=
  rawText_none_of_some (dropKeywords?_rawText kind sql)

theorem rawText_some_rawText {sql : String} (h : ∀ c ∈ sql.toList.head?, isBlank c = false)
    (kind : Option JoinKind) (k : JoinKind) :
    rawText (some k) (rawText kind sql) = rawText (some k) sql := by
  have hbare : bare (rawText kind sql) = bare sql := by
    rw [bare, dropKeywords?_rawText, Option.getD_some, skipBlanks_bare h, String.ofList_toList]
  rw [rawText_some, hbare, rawText_some]

theorem isBlankText_of_opening {opening : List Char} (h : Opening opening) {sql : String}
    (hfront : opening <+: sql.toList) : isBlankText sql = false := by
  obtain ⟨blanks, run, -, hrun, rfl⟩ := h
  obtain ⟨rest, hrest⟩ := hfront
  by_contra hblank
  have hall : ∀ c ∈ sql.toList, isBlank c := by simpa [isBlankText] using hblank
  have hnil : skipBlanks (run ++ rest) = [] := by
    refine List.dropWhile_eq_nil_iff.2 fun c hc => hall c ?_
    rw [← hrest, List.append_assoc]
    exact List.mem_append_right _ hc
  rw [hrun.skipBlanks_append] at hnil
  cases hrun with
  | join hfront hgap => simp [hgap.1] at hnil
  | kind hfront hgap => simp [hgap.1] at hnil

theorem isBlankText_rawText (kind : Option JoinKind) (sql : String) :
    isBlankText (rawText kind sql) = false := by
  obtain ⟨⟨opening, hopening, heq⟩, -⟩ :=
    dropKeywords?_eq_some_iff.1 (dropKeywords?_rawText kind sql)
  exact isBlankText_of_opening hopening ⟨_, heq.symm⟩

end Join

/-! ## Calls -/

namespace Call

/-- A join string that is not blank is written for its kind. -/
theorem run_join_raw (kind : Option JoinKind) {s : String} (hs : isBlankText s = false)
    (d : Draft) : (join kind (.raw s)).run d = (.ok none, d.withJoin (Join.rawText kind s)) := by
  have htext : Join.text kind (.raw s : Join Query) = pure (Join.rawText kind s) := by
    rw [Join.text, hs]
    rfl
  change (Edit.join kind (.raw s) >>= fun _ => pure none) d = _
  rw [Edit.join, htext]
  rfl

/-- **The last kind wins.** A join string that is not blank and does not start with a blank is
joined under one kind, or under none, and the text that comes of it under another. Both calls
succeed. If the second asks for no kind, it leaves the text as it is, and so it does if it asks for
the same kind again. If it asks for a kind, its text is what the string itself becomes under that
kind: the keyword, JOIN, and what the string joins. -/
theorem last_kind_wins {s : String} (hs : isBlankText s = false)
    (hhead : ∀ c ∈ s.toList.head?, isBlank c = false) (k₁ k₂ : Option JoinKind) (d e : Draft) :
    ∃ first second,
      (join k₁ (.raw s)).run d = (.ok none, d.withJoin first) ∧
      (join k₂ (.raw first)).run e = (.ok none, e.withJoin second) ∧
      (k₂ = none → second = first) ∧
      (k₂ = k₁ → second = first) ∧
      ∀ k, k₂ = some k → (join (some k) (.raw s)).run e = (.ok none, e.withJoin second) ∧
        ∃ target, Join.Joins s target ∧ second = k.keyword ++ " JOIN " ++ target := by
  refine ⟨Join.rawText k₁ s, Join.rawText k₂ (Join.rawText k₁ s), run_join_raw k₁ hs d,
    run_join_raw k₂ (Join.isBlankText_rawText k₁ s) e, ?_, ?_, ?_⟩
  · rintro rfl
    exact Join.rawText_none_rawText k₁ s
  · rintro rfl
    cases k₂ with
    | none => exact Join.rawText_none_rawText none s
    | some k => exact Join.rawText_some_rawText hhead (some k) k
  · rintro k rfl
    rw [Join.rawText_some_rawText hhead k₁ k]
    exact ⟨run_join_raw (some k) hs e, Join.bare s, Join.joins_bare s, Join.rawText_some k s⟩

/-- Keywords in all cases with blanks of two kinds, one of them with a long s, and a table whose
name is a keyword. -/
def crossedJoins : String := "Croſs\tOUTER  join JOINs"

theorem last_kind_wins_crossedJoins :
    isBlankText crossedJoins = false ∧ (∀ c ∈ crossedJoins.toList.head?, isBlank c = false) ∧
      ∃ first second,
        (join none (.raw crossedJoins)).run ⟨{}, 0, []⟩ =
          (.ok none, Draft.withJoin ⟨{}, 0, []⟩ first) ∧
        (join (some .left) (.raw first)).run ⟨{}, 0, []⟩ =
          (.ok none, Draft.withJoin ⟨{}, 0, []⟩ second) ∧
        first = crossedJoins ∧ second = "LEFT JOIN JOINs" := by
  have hs : isBlankText crossedJoins = false := by decide +kernel
  have hfirst : crossedJoins.toList.head? = some 'C' := by decide +kernel
  have hhead : ∀ c ∈ crossedJoins.toList.head?, isBlank c = false := by
    rw [hfirst]
    rintro _ ⟨⟩
    decide
  obtain ⟨first, second, hfirst, hsecond, -, -, hkind⟩ :=
    last_kind_wins hs hhead none (some .left) ⟨{}, 0, []⟩ ⟨{}, 0, []⟩
  have hjoins : ((join none (.raw crossedJoins)).run ⟨{}, 0, []⟩).2.query.joins =
      [crossedJoins] := by
    decide +kernel
  have hjoins' : ((join (some .left) (.raw crossedJoins)).run ⟨{}, 0, []⟩).2.query.joins =
      ["LEFT JOIN JOINs"] := by
    decide +kernel
  rw [hfirst] at hjoins
  rw [(hkind .left rfl).1] at hjoins'
  exact ⟨hs, hhead, first, second, hfirst, hsecond, List.singleton_inj.1 hjoins,
    List.singleton_inj.1 hjoins'⟩

end Call
end SqlBuilder
