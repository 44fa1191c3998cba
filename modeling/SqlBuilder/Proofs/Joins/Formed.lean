import SqlBuilder.Proofs.Conditions.Solid
import SqlBuilder.Proofs.Joins.Keywords
import SqlBuilder.Proofs.Merging.TakesOver

/-!
# The form of a join

A join that was accepted is a kind, JOIN, a target under a name, and nothing, shared columns or a
condition behind it (`Join.Parts`). The checks for that are made in three places, and each lets
something pass:

* A join string must not be blank, but it may consist of keywords. Then it has no target
  (`Join.solid_bare_iff`, `Join.names_bare_iff`).
* Entries without text are left out of the conditions of a join, but if all are, the parentheses
  stay. Which conditions have text can be told from their shape (`JoinOn.hasText`), for every
  comparison has a sign in it and only negation marks write nothing (`JoinOn.text_legible`).

Where neither happens the join is well formed, and only there (`Call.joined_in_form`).
-/

namespace SqlBuilder

open Text (Solid isBlank not_solid_empty solid_intercalate)

/-! ## Parts -/

namespace Join

/-- What the two sides of a join are linked by. -/
inductive Link where
  | nothing
  | shared (columns : List String)
  | on (condition : String)

/-- The text for the link, if it has one. -/
def Link.texts : Link → List String
  | nothing => []
  | shared columns => ["USING (" ++ listed columns ++ ")"]
  | on condition => ["ON (" ++ condition ++ ")"]

/-- No text is missing in the link. -/
def Link.WellFormed : Link → Prop
  | nothing => True
  | shared columns => columns ≠ [] ∧ ∀ column ∈ columns, Solid column
  | on condition => Solid condition

/-- What a join is made of. -/
structure Parts where
  kind : Option String
  target : String
  aliasName : Option String
  link : Link

def Parts.text (p : Parts) : String :=
  spaced (p.kind.toList ++ ["JOIN"] ++ (p.target :: p.aliasName.toList) ++ p.link.texts)

/-- No text is missing in the join. -/
structure Parts.WellFormed (p : Parts) : Prop where
  kind : ∀ k ∈ p.kind, Solid k
  target : Solid p.target
  aliasName : ∀ name ∈ p.aliasName, Solid name
  link : p.link.WellFormed

end Join

/-! ## Conditions with text -/

namespace JoinOn

mutual

/-- There is something in the conditions that is written. -/
def hasText : JoinOn → Bool
  | raw sql => sql ≠ ""
  | list items => anyText items
  | fields f => f.entries.any fun e => !Fields.isMark e

def anyText : List JoinOn → Bool
  | [] => false
  | on :: ons => on.hasText || anyText ons

end

mutual

/-- The conditions that the caller wrote as SQL. -/
def fragments : JoinOn → List String
  | raw sql => [sql]
  | list items => fragmentsOfItems items
  | fields _ => []

def fragmentsOfItems : List JoinOn → List String
  | [] => []
  | on :: ons => on.fragments ++ fragmentsOfItems ons

end

/-- Every text is empty or solid, and there is a solid one among them just if that is said. -/
structure Legible (said : Bool) (texts : List String) : Prop where
  clear : ∀ text ∈ texts, text = "" ∨ Solid text
  iff : (∃ text ∈ texts, Solid text) ↔ said = true

theorem Legible.nil : Legible false [] := ⟨by simp, by simp⟩

theorem Legible.cons {a b : Bool} {text : String} {texts : List String} (h : Legible a [text])
    (h' : Legible b texts) : Legible (a || b) (text :: texts) := by
  refine ⟨List.forall_mem_cons.2 ⟨h.clear text (List.mem_singleton_self text), h'.clear⟩, ?_⟩
  have htext : Solid text ↔ a = true := by simpa using h.iff
  rw [List.exists_mem_cons_iff, htext, h'.iff, Bool.or_eq_true]

theorem legible_of_solid {text : String} (h : Solid text) : Legible true [text] :=
  ⟨by simp [h], by simp [h]⟩

/-- Put together, the texts hold what they hold one by one. -/
theorem Legible.joined {a : Bool} {texts : List String} (h : Legible a texts)
    (connective : String) : Legible a [joined connective texts] := by
  by_cases hsolid : ∃ text ∈ texts, Solid text
  · obtain ⟨text, hmem, htext⟩ := hsolid
    have hpresent : text ∈ texts.filter (· ≠ "") := by
      refine List.mem_filter.2 ⟨hmem, ?_⟩
      have hne : text ≠ "" := fun heq => not_solid_empty (heq ▸ htext)
      simpa using hne
    have ha : a = true := h.iff.1 ⟨text, hmem, htext⟩
    rw [ha]
    exact legible_of_solid (solid_intercalate hpresent htext)
  · have hempty : texts.filter (· ≠ "") = [] := by
      refine List.filter_eq_nil_iff.2 fun text hmem => ?_
      have heq : text = "" := (h.clear text hmem).resolve_right fun htext =>
        hsolid ⟨text, hmem, htext⟩
      simp [heq]
    have hjoined : JoinOn.joined connective texts = "" := by
      rw [JoinOn.joined, hempty]
      rfl
    rw [hjoined]
    have hnone : ¬ ∃ text ∈ [""], Solid text := by simpa using not_solid_empty
    exact ⟨by simp, by rw [← h.iff, iff_false_right hsolid]; exact hnone⟩

/-! ### What is written -/

/-- A comparison has a sign or a keyword in it. -/
theorem compare_solid (negated : Bool) (field : String) (v : Operand) :
    Keeps (fun _ => True) Solid (compare negated field v) := by
  have hsign : Solid (if negated then " != " else " = ") := by cases negated <;> decide
  have hside (v : Operand) : Keeps (fun _ => True) Solid
      (do return field ++ (if negated then " != " else " = ") ++ (← rightSide field v)) :=
    .bind (.any _) fun text _ => .pure ((hsign.append_left field).append_right text)
  cases v with
  | list items =>
    exact .bind (.any _) fun texts _ => .pure ((show Solid " )" by decide).append_left _)
  | value v => exact hside (.value v)
  | data v own => exact hside (.data v own)
  | raw sql => exact hside (.raw sql)
  | object fs => exact hside (.object fs)

theorem compareFields_legible (negated : Bool) (es : List (String × Operand)) :
    Keeps (fun _ => True) (Legible (es.any fun e => !Fields.isMark e))
      (compareFields negated es) := by
  induction es generalizing negated with
  | nil => exact .pure .nil
  | cons e es ih =>
    rw [compareFields, List.any_cons]
    cases hmark : Fields.isMark e with
    | true =>
      have hcondition : (decide (e.1 = Fields.negationKey) && e.2.isTrue) = true := hmark
      rw [if_pos hcondition]
      exact ih true
    | false =>
      have hcondition : ¬ (decide (e.1 = Fields.negationKey) && e.2.isTrue) = true := by
        rw [Bool.not_eq_true]
        exact hmark
      rw [if_neg hcondition]
      exact .bind (compare_solid negated e.1 e.2) fun first hfirst =>
        .bind (ih negated) fun rest hrest => .pure ((legible_of_solid hfirst).cons hrest)

mutual

/-- Conditions have text just where their shape tells so. -/
theorem text_legible (connective : String) : (on : JoinOn) →
    (∀ sql ∈ on.fragments, sql = "" ∨ Solid sql) →
    Keeps (fun _ => True) (fun text => Legible on.hasText [text]) (text connective on)
  | raw sql, h => by
    refine .pure ?_
    rcases h sql (List.mem_singleton_self sql) with rfl | hsql
    · exact ⟨by simp, by simp [hasText, not_solid_empty]⟩
    · have hne : sql ≠ "" := fun heq => not_solid_empty (heq ▸ hsql)
      simpa [hasText, hne] using legible_of_solid hsql
  | list items, h => .bind (texts_legible items h) fun _ htexts => .pure (htexts.joined connective)
  | fields f, _ => .bind (compareFields_legible false f.entries) fun _ htexts =>
      .pure (htexts.joined connective)

theorem texts_legible : (ons : List JoinOn) →
    (∀ sql ∈ fragmentsOfItems ons, sql = "" ∨ Solid sql) →
    Keeps (fun _ => True) (Legible (anyText ons)) (texts ons)
  | [], _ => .pure .nil
  | on :: ons, h => by
    obtain ⟨hfirst, hrest⟩ := List.forall_mem_append.1 h
    rw [texts, anyText]
    exact .bind (text_legible Connective.and.keyword on hfirst) fun first hlegible =>
      .bind (texts_legible ons hrest) fun rest hothers => .pure (hlegible.cons hothers)

end

end JoinOn

/-! ## Joins given part by part -/

/-- Two words beside each other may be one. -/
theorem spaced_pair (before after : List String) (s t : String) :
    spaced (before ++ [s ++ " " ++ t] ++ after) = spaced (before ++ [s, t] ++ after) := by
  induction before with
  | nil =>
    cases after with
    | nil => simp [spaced]
    | cons next rest => simp [spaced, String.append_assoc]
  | cons first rest ih =>
    have hcons {parts : List String} (h : parts ≠ []) :
        spaced (first :: parts) = first ++ " " ++ spaced parts :=
      String.intercalate_cons_of_ne_nil h
    rw [List.cons_append, List.cons_append, List.cons_append, List.cons_append,
      hcons (by simp), hcons (by simp), ih]

namespace JoinOptions

variable (o : JoinOptions Query)

/-- No string in the options is blank; a fragment of the conditions may be empty. -/
structure NoBlanks : Prop where
  kind : ∀ k ∈ o.kind, Solid k
  table : ∀ name, o.target = some (.table name) → Solid name
  aliasName : ∀ name ∈ o.aliasName, Solid name
  usingColumns : ∀ column ∈ o.usingColumns, Solid column
  on : ∀ on ∈ o.on, ∀ sql ∈ on.fragments, sql = "" ∨ Solid sql

/-- There is something to say about the link, if there is to be one. -/
def Links : Prop := o.usingColumns = [] → ∀ on ∈ o.on, on.hasText = true

/-- The link, with the text for the conditions. Shared columns go before them. -/
def link (condition : String) : Join.Link :=
  if o.usingColumns = [] then if o.on.isSome then .on condition else .nothing
  else .shared o.usingColumns

/-- The parts of the join where a number of names were generated before. A query is joined in
parentheses and always has a name. -/
def parts (lastId : Nat) (condition : String) : Option Join.Parts :=
  o.target.map fun
    | .table name => ⟨o.kind, name, o.aliasName, o.link condition⟩
    | .query q => ⟨o.kind, "(" ++ q.selectText ++ ")",
        some ("as " ++ Identifier.quote ((q.under o.aliasName).nameFrom lastId)), o.link condition⟩

variable {o : JoinOptions Query}

theorem linkParts_eq_ok (ho : o.NoBlanks) {b c : Binder} {texts : List String}
    (h : Join.linkParts o b = (.ok texts, c)) :
    ∃ condition, texts = (o.link condition).texts ∧
      ((o.link condition).WellFormed ↔ o.Links) ∧ (¬ o.Links → condition = "") := by
  by_cases husing : o.usingColumns = []
  · rw [Join.linkParts, if_pos husing] at h
    cases hon : o.on with
    | none =>
      rw [hon] at h
      cases h
      have hlinks : o.Links := by simp [Links, hon]
      exact ⟨"", by simp [link, husing, hon, Join.Link.texts],
        by simp [link, husing, hon, Join.Link.WellFormed, hlinks], fun hnot => absurd hlinks hnot⟩
    | some on =>
      rw [hon] at h
      obtain ⟨text, mid, htext, hpure⟩ := bind_eq_ok h
      cases hpure
      have hlegible : JoinOn.Legible on.hasText [text] :=
        (JoinOn.text_legible _ on (ho.on on hon) b trivial).2 text (congrArg Prod.fst htext)
      have hsolid : Solid text ↔ on.hasText = true := by simpa using hlegible.iff
      have hlinks : o.Links ↔ on.hasText = true := by simp [Links, husing, hon]
      refine ⟨text, by simp [link, husing, hon, Join.Link.texts], ?_, fun hnot => ?_⟩
      · rw [hlinks, ← hsolid, link, if_pos husing, if_pos (by simp [hon])]
        rfl
      · refine (hlegible.clear text (List.mem_singleton_self text)).resolve_right fun htext => ?_
        exact hnot (hlinks.2 (hsolid.1 htext))
  · rw [Join.linkParts, if_neg husing] at h
    cases h
    have hlinks : o.Links := fun hnil => absurd hnil husing
    refine ⟨"", by rw [link, if_neg husing]; rfl, ?_, fun hnot => absurd hlinks hnot⟩
    rw [link, if_neg husing]
    exact iff_of_true ⟨husing, ho.usingColumns⟩ hlinks

/-- The text of a join is made of its parts, and these are well formed if they are linked. -/
theorem optionsText_eq_ok (ho : o.NoBlanks) {b c : Binder} {text : String}
    (h : Join.optionsText o b = (.ok text, c)) :
    ∃ condition p, o.parts b.lastId condition = some p ∧ text = p.text ∧
      (p.WellFormed ↔ o.Links) ∧ (¬ o.Links → condition = "") := by
  obtain ⟨target, mid, htarget, h⟩ := bind_eq_ok h
  obtain ⟨texts, _, hlink, hpure⟩ := bind_eq_ok h
  cases hpure
  obtain ⟨condition, rfl, hformed, hnot⟩ := linkParts_eq_ok ho hlink
  cases hpoint : o.target with
  | none =>
    rw [hpoint] at htarget
    cases htarget
  | some target =>
    cases target with
    | table name =>
      rw [hpoint, Join.targetParts] at htarget
      split at htarget
      · cases htarget
      · cases htarget
        refine ⟨condition, _, by rw [parts, hpoint]; rfl, rfl, ?_, hnot⟩
        exact ⟨fun hp => hformed.1 hp.link, fun hlinks =>
          ⟨ho.kind, ho.table name hpoint, ho.aliasName, hformed.2 hlinks⟩⟩
    | query q =>
      rw [hpoint] at htarget
      obtain ⟨embedded, _, hembed, hpure⟩ := bind_eq_ok htarget
      cases hpure
      obtain ⟨rfl, -⟩ := Query.embed_eq_ok hembed
      refine ⟨condition, _, by rw [parts, hpoint]; rfl, ?_, ?_, hnot⟩
      · have hsplit : (q.under o.aliasName).embedding b.lastId =
            "(" ++ q.selectText ++ ")" ++ " " ++
              ("as " ++ Identifier.quote ((q.under o.aliasName).nameFrom b.lastId)) := by
          have has : ") as " = ")" ++ (" " ++ "as ") := rfl
          rw [Query.embedding, has]
          simp only [String.append_assoc]
          rfl
        change spaced (o.kind.toList ++ ["JOIN"] ++
          [(q.under o.aliasName).embedding b.lastId] ++ _) = _
        rw [hsplit, spaced_pair]
        rfl
      · exact ⟨fun hp => hformed.1 hp.link, fun hlinks =>
          ⟨ho.kind, ((show Solid "(" by decide).append_right _).append_right _,
            fun name hname => Option.some.inj hname ▸ (show Solid "as " by decide).append_right _,
            hformed.2 hlinks⟩⟩

end JoinOptions

/-! ## Join strings -/

namespace Join

/-- The words of a text, as blanks divide it. -/
def words (cs : List Char) : List (List Char) := (cs.splitOnP isBlank).filter (· ≠ [])

/-- There is a word in the text that is no keyword of a join. -/
def Names (s : String) : Prop := ∃ word ∈ words s.toList, word.map fold ∉ joinWord :: kindWords

theorem words_append_cons {c : Char} (hc : isBlank c = true) (cs rest : List Char) :
    words (cs ++ c :: rest) = words cs ++ words rest := by
  rw [words, List.splitOnP_append_cons _ _ hc, List.filter_append]
  rfl

theorem words_blanks_append {blanks : List Char} (h : ∀ c ∈ blanks, isBlank c) (rest : List Char) :
    words (blanks ++ rest) = words rest := by
  induction blanks with
  | nil => rfl
  | cons c blanks ih =>
    obtain ⟨hc, hblanks⟩ := List.forall_mem_cons.1 h
    exact (words_append_cons hc [] (blanks ++ rest)).trans (ih hblanks)

/-- A keyword is a word. -/
theorem words_keyword_append {front gap : List Char}
    (hfront : front.map fold ∈ joinWord :: kindWords) (hgap : IsGap gap) (rest : List Char) :
    words (front ++ gap ++ rest) = front :: words rest := by
  have hne : front ≠ [] := by
    rintro rfl
    exact absurd hfront (by decide)
  have hword : words front = [front] := by
    rw [words, List.splitOnP_eq_singleton (isBlank_of_mem_keyword hfront),
      List.filter_cons_of_pos (by simpa using hne), List.filter_nil]
  obtain ⟨hsome, hblank⟩ := hgap
  cases gap with
  | nil => exact absurd rfl hsome
  | cons c gap =>
    obtain ⟨hc, hblanks⟩ := List.forall_mem_cons.1 hblank
    rw [List.append_assoc, List.cons_append, words_append_cons hc, hword,
      words_blanks_append hblanks]
    rfl

/-- Before anything else there are only keywords in a run. -/
theorem Run.words_append {run : List Char} (h : Run run) (rest : List Char) :
    ∃ keywords, words (run ++ rest) = keywords ++ words rest ∧
      ∀ word ∈ keywords, word.map fold ∈ joinWord :: kindWords := by
  induction h with
  | @join front gap hfront hgap =>
    have hmem : front.map fold ∈ joinWord :: kindWords := hfront ▸ List.mem_cons_self
    exact ⟨[front], words_keyword_append hmem hgap rest, by simpa using hmem⟩
  | @kind front gap run hfront hgap _ ih =>
    obtain ⟨keywords, hwords, hkeywords⟩ := ih
    have hmem : front.map fold ∈ joinWord :: kindWords := List.mem_cons_of_mem _ hfront
    refine ⟨front :: keywords, ?_, List.forall_mem_cons.2 ⟨hmem, hkeywords⟩⟩
    rw [List.append_assoc, words_keyword_append hmem hgap, hwords]
    rfl

/-- An opening adds no word but keywords. -/
theorem names_of_opening {s target : String} {opening : List Char} (h : Opening opening)
    (hs : s.toList = opening ++ target.toList) : Names s ↔ Names target := by
  obtain ⟨blanks, run, hblanks, hrun, rfl⟩ := h
  obtain ⟨keywords, hwords, hkeywords⟩ := hrun.words_append target.toList
  rw [List.append_assoc] at hs
  rw [Names, hs, words_blanks_append hblanks, hwords, Names]
  constructor
  · rintro ⟨word, hword, hnot⟩
    rcases List.mem_append.1 hword with hword | hword
    · exact absurd (hkeywords word hword) hnot
    · exact ⟨word, hword, hnot⟩
  · rintro ⟨word, hword, hnot⟩
    exact ⟨word, List.mem_append_right _ hword, hnot⟩

/-- What a string joins is named in it. -/
theorem names_bare_iff (s : String) : Names (bare s) ↔ Names s := by
  rcases joins_bare s with ⟨⟨opening, hopening, hs⟩, -⟩ | ⟨heq, -⟩
  · exact (names_of_opening hopening hs).symm
  · rw [heq]

/-- A string joins something unless it is all opening. -/
theorem solid_bare_iff {s : String} (hs : Solid s) : Solid (bare s) ↔ ¬ Opening s.toList := by
  rcases joins_bare s with ⟨⟨opening, hopening, heq⟩, hhead⟩ | ⟨heq, hnone⟩
  · have hdrop : dropKeywords? s = some (bare s) :=
      dropKeywords?_eq_some_iff.2 ⟨⟨opening, hopening, heq⟩, Text.skipBlanks_eq_self_iff.2 hhead⟩
    constructor
    · intro hbare hall
      have hnil : dropKeywords? s = some "" :=
        dropKeywords?_eq_some_iff.2 ⟨⟨s.toList, hall, by simp⟩, rfl⟩
      rw [Option.some.inj (hdrop.symm.trans hnil)] at hbare
      exact not_solid_empty hbare
    · intro hnot
      cases hchars : (bare s).toList with
      | nil => exact absurd (by rwa [heq, hchars, List.append_nil]) hnot
      | cons c cs =>
        rw [hchars] at hhead
        exact Text.solid_of_mem (by rw [hchars]; exact List.mem_cons_self) (hhead c rfl)
  · rw [heq]
    exact iff_of_true hs fun hopening => hnone _ hopening List.prefix_rfl

/-- The text of a join string divides into an opening and what the string joins. -/
theorem exists_opening (kind : Option JoinKind) (s : String) :
    ∃ opening, rawText kind s = opening ++ bare s ∧ Opening opening.toList ∧
      ∀ k, kind = some k → opening = k.keyword ++ " JOIN " := by
  cases kind with
  | some k =>
    refine ⟨_, rawText_some k s, opening_keyword k, ?_⟩
    rintro _ ⟨⟩
    rfl
  | none =>
    rcases hdrop : dropKeywords? s with _ | rest
    · exact ⟨"JOIN ", rawText_none_of_none hdrop, opening_join, nofun⟩
    · obtain ⟨⟨opening, hopening, heq⟩, -⟩ := dropKeywords?_eq_some_iff.1 hdrop
      refine ⟨.ofList opening, ?_, by rwa [String.toList_ofList], nofun⟩
      rw [rawText_none_of_some hdrop, bare, hdrop, Option.getD_some]
      exact String.toList_injective (by simp [heq])

end Join

/-! ## Calls -/

/-- No string of a join given part by part is blank. -/
def Join.NoBlanks : Join Query → Prop
  | raw _ | query _ => True
  | options o => o.NoBlanks

namespace Call

/-- **A join is well formed if there is something in it.** Every join that is accepted adds one
text, and no query is accepted without options.

* The text for a join string is an opening, that of the kind if one is asked for, and then what the
  string joins. That is not blank just if the string is more than an opening, and there is a word in
  it that is no keyword of a join just if there is one in the string.
* The text for a join given part by part, without a blank string, has a kind or none, JOIN, a
  target, a name or none, and nothing, shared columns or a condition. It is well formed just if some
  part of the condition that is to stand there has text; if none has, the parentheses are empty. -/
theorem joined_in_form {kind : Option JoinKind} {j : Join Query} (hj : j.NoBlanks) {d e : Draft}
    {r : Option String} (h : (join kind j).run d = (.ok r, e)) :
    ∃ text, e.query.joins = d.query.joins ++ [text] ∧
      match j with
      | .raw s => ∃ opening target, text = opening ++ target ∧ Join.Opening opening.toList ∧
          (∀ k, kind = some k → opening = k.keyword ++ " JOIN ") ∧ Join.Joins s target ∧
          (Solid target ↔ ¬ Join.Opening s.toList) ∧ (Join.Names target ↔ Join.Names s)
      | .options o => ∃ condition parts,
          JoinOptions.parts { o with kind := (kind.map JoinKind.keyword).or o.kind } d.lastId
            condition = some parts ∧
          text = parts.text ∧ (parts.WellFormed ↔ o.Links) ∧ (¬ o.Links → condition = "")
      | .query _ => False := by
  obtain ⟨_, _, hedit, hnone⟩ := bind_eq_ok h
  cases hnone
  obtain ⟨text, _, hwrite, hchange⟩ := bind_eq_ok hedit
  cases hchange
  obtain ⟨b, htext, rfl⟩ := Edit.write_eq_ok hwrite
  refine ⟨text, rfl, ?_⟩
  cases j with
  | query q => cases htext
  | raw s =>
    rw [Join.text] at htext
    split at htext
    · cases htext
    · rename_i hs
      cases htext
      obtain ⟨opening, heq, hopening, hkind⟩ := Join.exists_opening kind s
      exact ⟨opening, Join.bare s, heq, hopening, hkind, Join.joins_bare s,
        Join.solid_bare_iff ((Bool.not_eq_true _).mp hs), Join.names_bare_iff s⟩
  | options o =>
    have ho : o.NoBlanks := hj
    have hkind : ∀ k ∈ (kind.map JoinKind.keyword).or o.kind, Solid k := by
      cases kind with
      | none => exact ho.kind
      | some kind =>
        rintro _ ⟨⟩
        cases kind <;> decide
    have hkinded : JoinOptions.NoBlanks
        { o with kind := (kind.map JoinKind.keyword).or o.kind } :=
      ⟨hkind, ho.table, ho.aliasName, ho.usingColumns, ho.on⟩
    change Join.optionsText _ d.binder = _ at htext
    obtain ⟨condition, parts, hparts, heq, hformed, hnot⟩ :=
      JoinOptions.optionsText_eq_ok hkinded htext
    exact ⟨condition, parts, hparts, heq, hformed, hnot⟩

/-- Books by anyone but their owner, with an entry that says nothing. -/
def byOthers : JoinOptions Query where
  target := some (.table "books")
  aliasName := some "b"
  on := some (.list [.raw "",
    .fields ⟨[("not", .value (.bool true)), ("b.author", .value (.text "b.owner"))]⟩])

theorem joined_in_form_byOthers :
    Join.NoBlanks (.options byOthers) ∧ ∃ e : Draft,
      (join (some .left) (.options byOthers)).run ⟨{}, 0, []⟩ = (.ok none, e) ∧
      e.query.joins = ["LEFT JOIN books b ON (b.author != b.owner)"] ∧
      ∃ parts : Join.Parts, parts.text = "LEFT JOIN books b ON (b.author != b.owner)" ∧
        parts.WellFormed := by
  have hj : Join.NoBlanks (.options byOthers) := by
    refine ⟨nofun, ?_, by decide, by decide, by decide⟩
    rintro _ ⟨⟩
    decide
  have hrun : (join (some .left) (.options byOthers)).run ⟨{}, 0, []⟩ =
      (.ok none, ((join (some .left) (.options byOthers)).run ⟨{}, 0, []⟩).2) := rfl
  have hjoins : ((join (some .left) (.options byOthers)).run ⟨{}, 0, []⟩).2.query.joins =
      ["LEFT JOIN books b ON (b.author != b.owner)"] := by
    decide +kernel
  have hlinks : byOthers.Links := fun _ => by decide
  obtain ⟨text, htext, condition, parts, -, rfl, hformed, -⟩ := joined_in_form hj hrun
  rw [hjoins] at htext
  exact ⟨hj, _, hrun, hjoins, parts, (List.singleton_inj.1 htext).symm, hformed.2 hlinks⟩

/-- A list of conditions without an entry leaves its parentheses, and a string of keywords has no
target. -/
theorem join_accepts_no_condition_no_target :
    (∃ e : Draft, (join none (.options { target := some (.table "u"), on := some (.list []) })).run
      ⟨{}, 0, []⟩ = (.ok none, e) ∧ e.query.joins = ["JOIN u ON ()"]) ∧
    ∃ e : Draft, (join (some .left) (.raw "LEFT JOIN ")).run ⟨{}, 0, []⟩ = (.ok none, e) ∧
      e.query.joins = ["LEFT JOIN "] :=
  ⟨⟨_, rfl, by decide +kernel⟩, ⟨_, rfl, by decide +kernel⟩⟩

end Call
end SqlBuilder
