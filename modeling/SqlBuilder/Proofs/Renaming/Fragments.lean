import SqlBuilder.Proofs.Renaming.Abreast
import SqlBuilder.Proofs.Supply.Condition
import SqlBuilder.Proofs.Supply.Join

/-!
# Fragments written twice

What a call writes from texts without placeholders comes out the same wherever the counter stands,
but for the numbers of the placeholders it generates: comparisons, conditions, columns, joins and
assignments, each by the rules of its parts. No other query may be referred to, since its texts
come with placeholders of their own.

Some texts decide how fragments are put together: the word that leads a list of conditions, and
entries of a join that are empty. None of them has a placeholder, so aligned texts decide alike
(`Aligned.eq_iff`).
-/

namespace SqlBuilder

variable {m n : Nat} {N : String → String → Prop}

/-- The fragment is written to aligned texts or to nothing. -/
abbrev RendersOption (m n : Nat) (r r' : Render (Option String)) : Prop :=
  Abreast (Binder.Shifted m n)
    (fun a b => List.Forall₂ (Aligned (Fresh m n)) a.toList b.toList) r r'

/-! ## Conditions -/

namespace Condition

theorem aligned_joined {ps qs : List String} (h : List.Forall₂ (Aligned N) ps qs)
    (connective : Connective) :
    List.Forall₂ (Aligned N) (joined connective ps).toList (joined connective qs).toList := by
  cases h with
  | nil => exact .nil
  | cons hp htail =>
    cases htail with
    | nil => exact .cons hp .nil
    | cons hq hrest =>
      refine .cons (.glue_right (by decide) (.lead (by decide) ?_)) .nil
      exact .intercalate (by cases connective <;> decide) (.cons hp (.cons hq hrest))

theorem aligned_combined {ps qs : List String} (h : List.Forall₂ (Aligned N) ps qs) :
    List.Forall₂ (Aligned N) (combined ps).toList (combined qs).toList := by
  cases h with
  | nil => exact .nil
  | cons hp hrest =>
    have hword := hp.eq_iff (u := Query.leadingAnd) (placeholders_of_not_mem (by decide))
    unfold combined
    simp only [List.head?_cons, Option.some.injEq, hword]
    split
    · exact aligned_joined hrest .and
    · exact aligned_joined (.cons hp hrest) .or

/-! ### Comparisons -/

section Compare

variable {operator : String} {modifier : Option String} {field : String}

theorem compareOne_renders (hoperator : Plain [operator]) (hmodifier : Plain modifier.toList)
    (hfield : Plain [field]) {v : Operand} (hv : Plain v.sqlTexts) :
    RendersAll m n
      (do return [field ++ " " ++ operator ++ " " ++ (← Binder.bindOperand v modifier)])
      (do return [field ++ " " ++ operator ++ " " ++ (← Binder.bindOperand v modifier)]) := by
  refine (Binder.bindOperand_renders (Bindings.covers_append.2 ⟨hv, hmodifier⟩)).map
    fun s t hst => .cons (.glue (by decide) (.glue (by decide) ?_ ?_) hst) .nil
  · exact hfield.single
  · exact hoperator.single

mutual

theorem compare_renders (hoperator : Plain [operator]) (hmodifier : Plain modifier.toList)
    (hfield : Plain [field]) : {v : Operand} → Plain v.sqlTexts →
      RendersAll m n (compare operator modifier field v) (compare operator modifier field v)
  | .value _, hv | .data _ _, hv | .raw _, hv | .object _, hv => by
    unfold compare
    exact compareOne_renders hoperator hmodifier hfield hv
  | .list items, hv => by
    unfold compare
    cases hkeyword : membership? operator with
    | none => exact compareEach_renders hoperator hmodifier hfield hv
    | some keyword =>
      have hitems : ∀ v ∈ items,
          Renders m n (Binder.bindOperand v modifier) (Binder.bindOperand v modifier) := by
        rw [Operand.sqlTexts, Operand.sqlTextsOfItems_eq] at hv
        exact fun v hmem => Binder.bindOperand_renders
          (Bindings.covers_append.2 ⟨Bindings.covers_flatMap.1 hv v hmem, hmodifier⟩)
      refine (Abreast.mapM (List.forall₂_same.2 hitems)).map fun ss ts hst => ?_
      have hword : Plain [keyword] := by simp [supplies_membership hkeyword]
      exact .cons (.glue_right (by decide) (.glue (by decide)
        (.glue (by decide) hfield.single hword.single)
        (.intercalate (by decide) hst))) .nil

theorem compareEach_renders (hoperator : Plain [operator]) (hmodifier : Plain modifier.toList)
    (hfield : Plain [field]) : {vs : List Operand} → Plain (Operand.sqlTextsOfItems vs) →
      RendersAll m n (compareEach operator modifier field vs)
        (compareEach operator modifier field vs)
  | [], _ => .pure .nil
  | v :: vs, hvs => by
    obtain ⟨hv, hvs⟩ := Bindings.covers_append.1 hvs
    unfold compareEach
    refine (compare_renders hoperator hmodifier hfield hv).bind fun _ _ hfirst => ?_
    exact (compareEach_renders hoperator hmodifier hfield hvs).map fun _ _ hrest =>
      List.rel_append hfirst hrest

end

theorem compareFields_renders (hoperator : Plain [operator]) (hmodifier : Plain modifier.toList)
    {fs : List (String × Operand)} (hfs : Plain (Operand.sqlTextsOfFields fs)) :
    RendersAll m n (compareFields operator modifier fs)
      (compareFields operator modifier fs) := by
  induction fs generalizing operator with
  | nil => exact .pure .nil
  | cons f fs ih =>
    obtain ⟨hfield, hrest⟩ := Bindings.covers_cons.1 hfs
    obtain ⟨hv, hfs⟩ := Bindings.covers_append.1 hrest
    have hnegated : Plain [negated operator] := by
      simp [supplies_negated (hoperator operator (List.mem_singleton_self operator))]
    unfold compareFields
    refine .ite (ih hnegated hfs) ?_
    refine (compare_renders hoperator hmodifier (by simp [hfield]) hv).bind fun _ _ hfirst => ?_
    exact (ih hoperator hfs).map fun _ _ hrest => List.rel_append hfirst hrest

theorem objectText_renders (hoperator : Plain [operator]) (hmodifier : Plain modifier.toList)
    {f : Fields} (hf : Plain f.sqlTexts) :
    RendersOption m n (objectText operator modifier f) (objectText operator modifier f) :=
  (compareFields_renders hoperator hmodifier hf).map fun _ _ h => aligned_joined h .and

theorem compareAll_renders (hoperator : Plain [operator]) (hmodifier : Plain modifier.toList)
    {v : Operand} (hv : Plain v.sqlTexts) {names : List String} (hnames : Plain names) :
    RendersAll m n (compareAll operator modifier v names)
      (compareAll operator modifier v names) := by
  induction names with
  | nil => exact .pure .nil
  | cons name names ih =>
    obtain ⟨hname, hnames⟩ := Bindings.covers_cons.1 hnames
    refine (compare_renders hoperator hmodifier (by simp [hname]) hv).bind fun _ _ hfirst => ?_
    exact (ih hnames).map fun _ _ hrest => List.rel_append hfirst hrest

/-! ### Conditions as text -/

mutual

theorem parts_renders (hoperator : Plain [operator]) (hmodifier : Plain modifier.toList) :
    {c : Condition Query} → Plain c.sqlTexts → c.queries = [] →
      RendersAll m n (parts operator modifier c) (parts operator modifier c)
  | .raw sql, hc, _ => by
    unfold parts
    exact .pure hc.forall₂
  | .list items, hc, hqueries => by
    unfold parts
    exact partsOfItems_renders hoperator hmodifier hc hqueries
  | .fields f, hc, _ => by
    unfold parts
    exact (objectText_renders hoperator hmodifier hc).map fun _ _ => id
  | .query q, _, hqueries => nomatch hqueries
  | .value v, _, _ => by
    unfold parts
    exact .throw _

theorem partsOfItems_renders (hoperator : Plain [operator]) (hmodifier : Plain modifier.toList) :
    {cs : List (Condition Query)} → Plain (sqlTextsOfItems cs) → queriesOfItems cs = [] →
      RendersAll m n (partsOfItems operator modifier cs) (partsOfItems operator modifier cs)
  | [], _, _ => .pure .nil
  | c :: cs, hcs, hqueries => by
    obtain ⟨hc, hcs⟩ := Bindings.covers_append.1 hcs
    obtain ⟨hqueries, hrest⟩ := List.append_eq_nil_iff.1 hqueries
    unfold partsOfItems
    refine (parts_renders hoperator hmodifier hc hqueries).bind fun _ _ hfirst => ?_
    exact (partsOfItems_renders hoperator hmodifier hcs hrest).map fun _ _ hrest =>
      List.rel_append hfirst hrest

end

theorem partsWith_renders (hoperator : Plain [operator]) (hmodifier : Plain modifier.toList)
    {c : Condition Query} (hc : Plain c.sqlTexts) (hqueries : c.queries = []) {v : Option Operand}
    (hv : Plain (v.toList.flatMap Operand.sqlTexts)) :
    RendersAll m n (partsWith operator modifier c v) (partsWith operator modifier c v) := by
  cases v with
  | none =>
    cases c with
    | raw sql => exact .pure hc.forall₂
    | list items => exact partsOfItems_renders hoperator hmodifier hc hqueries
    | fields f => exact (objectText_renders hoperator hmodifier hc).map fun _ _ => id
    | query q => cases hqueries
    | value v => exact .throw _
  | some v =>
    have hv : Plain v.sqlTexts := by simpa using hv
    have hnamed : RendersAll m n
        (do compareAll operator modifier v (← (fieldNames c : Except Failure _)))
        (do compareAll operator modifier v (← (fieldNames c : Except Failure _))) := by
      refine (Abreast.except (R := fun names names' => names = names' ∧ Plain names)
        fun names hnames => ⟨rfl, fun s hs => hc s ?_⟩).bind fun names names' hnames => ?_
      · exact mem_sqlTexts_of_fieldNames hnames s hs
      · obtain ⟨rfl, hnames⟩ := hnames
        exact compareAll_renders hoperator hmodifier hv hnames
    cases c with
    | raw _ | list _ => exact hnamed
    | fields _ | query _ | value _ => exact .throw _

end Compare

theorem text_renders {c : Condition Query} {v : Option Operand} {operator modifier : Option String}
    (hc : Plain c.sqlTexts) (hqueries : c.queries = [])
    (hv : Plain (v.toList.flatMap Operand.sqlTexts)) (hoperator : Plain operator.toList)
    (hmodifier : Plain modifier.toList) :
    RendersOption m n (c.text v operator modifier) (c.text v operator modifier) := by
  have hword : Plain [operator.getD "="] := by
    cases operator with
    | none => simp
    | some operator => exact hoperator
  exact (partsWith_renders hword hmodifier hc hqueries hv).map fun _ _ => aligned_combined

/-- A fragment as a condition, with placeholders that may be shifted. -/
theorem textOfRaw_renders {s t : String} (h : Aligned (Fresh m n) s t) :
    RendersOption m n (text (.raw s) none none none) (text (.raw t) none none none) :=
  .pure (aligned_combined (.cons h .nil))

end Condition

/-! ## Columns -/

namespace Column

/-- The text of a name is the same in both runs. -/
theorem text_renders {c : Column Query} (hc : Plain c.sqlTexts) (hqueries : c.queries = []) :
    Abreast (Binder.Shifted m n)
      (fun s t => Aligned (Fresh m n) s t ∧ (c.isName → s = t ∧ placeholders s = []))
      c.text c.text := by
  have hname {s : String} (hs : Plain [s]) : Aligned (Fresh m n) s s ∧
      (c.isName → s = s ∧ placeholders s = []) :=
    ⟨hs.single,
      fun _ => ⟨rfl, plain_iff.1 hs s (List.mem_singleton_self s)⟩⟩
  have hbound {v : Value} {modifier : Option String} (hmodifier : Plain modifier.toList)
      (hc : c.isName = false) : Abreast (Binder.Shifted m n)
        (fun s t => Aligned (Fresh m n) s t ∧ (c.isName → s = t ∧ placeholders s = []))
        (Binder.bind v modifier : Render String) (Binder.bind v modifier : Render String) :=
    (Binder.bind_renders v hmodifier).weaken fun _ _ h => ⟨h, fun hname => by simp [hc] at hname⟩
  cases c with
  | name s => exact .pure (hname hc)
  | data v modifier => exact hbound hc rfl
  | query q => cases hqueries
  | value v =>
    cases v with
    | text s => exact .pure (hname hc)
    | int _ | float _ | time _ => exact hbound (Bindings.covers_nil _) rfl
    | null | bool _ => exact .throw _

end Column

/-! ## Joins -/

namespace JoinOn

theorem rightSide_renders {field : String} {v : Operand} (hv : Plain v.sideTexts) :
    Renders m n (rightSide field v) (rightSide field v) := by
  have hmodifier : Plain (Option.toList (none : Option String)) := Bindings.covers_nil _
  cases v with
  | value v =>
    cases v with
    | text column => exact .pure hv.single
    | _ => exact Binder.bind_renders _ hmodifier
  | data v modifier =>
    exact Binder.bindOperand_renders (Bindings.covers_append.2 ⟨hv, hmodifier⟩)
  | raw sql => exact .pure hv.single
  | list _ | object _ => exact .throw _

theorem compareSide_renders {negated : Bool} {field : String} (hfield : Plain [field])
    {v : Operand} (hv : Plain v.sideTexts) :
    Renders m n
      (do return field ++ (if negated then " != " else " = ") ++ (← rightSide field v))
      (do return field ++ (if negated then " != " else " = ") ++ (← rightSide field v)) :=
  (rightSide_renders hv).map fun _ _ h => .glue (by cases negated <;> decide)
    hfield.single h

theorem compare_renders {negated : Bool} {field : String} (hfield : Plain [field]) {v : Operand}
    (hv : Plain v.sideTexts) :
    Renders m n (compare negated field v) (compare negated field v) := by
  cases v with
  | list items =>
    have hitems : ∀ v ∈ items,
        Renders m n (Binder.bindOperand v none) (Binder.bindOperand v none) := by
      change Plain (Operand.sqlTextsOfItems items) at hv
      rw [Operand.sqlTextsOfItems_eq] at hv
      exact fun v hmem => Binder.bindOperand_renders
        (Bindings.covers_append.2 ⟨Bindings.covers_flatMap.1 hv v hmem, Bindings.covers_nil _⟩)
    refine (Abreast.mapM (List.forall₂_same.2 hitems)).map fun _ _ h => ?_
    exact .glue_right (by decide) (.glue (by cases negated <;> decide)
      hfield.single (.listed h))
  | value _ | data _ _ | raw _ | object _ => exact compareSide_renders hfield hv

theorem compareFields_renders {negated : Bool} {fs : List (String × Operand)}
    (hfs : Plain (fs.flatMap fun e => e.1 :: e.2.sideTexts)) :
    RendersAll m n (compareFields negated fs) (compareFields negated fs) := by
  induction fs generalizing negated with
  | nil => exact .pure .nil
  | cons f fs ih =>
    obtain ⟨hf, hfs⟩ := Bindings.covers_append.1 hfs
    obtain ⟨hfield, hv⟩ := Bindings.covers_cons.1 hf
    unfold compareFields
    refine .ite (ih hfs) ?_
    refine (compare_renders (by simp [hfield]) hv).bind fun _ _ hfirst => ?_
    exact (ih hfs).map fun _ _ hrest => .cons hfirst hrest

theorem aligned_joined {connective : String} (hconnective : Plain [connective])
    {ps qs : List String} (h : List.Forall₂ (Aligned N) ps qs) :
    Aligned N (joined connective ps) (joined connective qs) := by
  refine .intercalate_word hconnective.single ?_
  induction h with
  | nil => exact .nil
  | cons hp _ ih =>
    simp only [List.filter_cons, ne_eq, hp.eq_iff placeholders_empty]
    split
    · exact .cons hp ih
    · exact ih

mutual

theorem text_renders {connective : String} (hconnective : Plain [connective]) :
    {on : JoinOn} → Plain on.sqlTexts →
      Renders m n (text connective on) (text connective on)
  | .raw sql, hon => .pure hon.single
  | .list items, hon => by
    unfold text
    exact (texts_renders hon).map fun _ _ => aligned_joined hconnective
  | .fields f, hon => by
    unfold text
    exact (compareFields_renders hon).map fun _ _ => aligned_joined hconnective

theorem texts_renders : {ons : List JoinOn} → Plain (sqlTextsOfItems ons) →
    RendersAll m n (texts ons) (texts ons)
  | [], _ => .pure .nil
  | on :: ons, hons => by
    obtain ⟨hon, hons⟩ := Bindings.covers_append.1 hons
    unfold texts
    refine (text_renders (by simp) hon).bind fun _ _ hfirst => ?_
    exact (texts_renders hons).map fun _ _ hrest => .cons hfirst hrest

end

end JoinOn

namespace Join

theorem linkParts_renders {o : JoinOptions Query} (ho : Plain (optionTexts o)) :
    RendersAll m n (linkParts o) (linkParts o) := by
  simp only [Plain, optionTexts, Bindings.covers_append] at ho
  obtain ⟨⟨⟨⟨-, hon⟩, hconnective⟩, hcolumns⟩, -⟩ := ho
  unfold linkParts
  refine .ite ?_ (.pure (.cons ?_ .nil))
  · cases hsome : o.on with
    | none => exact .pure .nil
    | some on =>
      have hword : Plain [o.onConnective.getD Connective.and.keyword] := by
        cases hword : o.onConnective with
        | none => simp
        | some word => simpa [hword] using hconnective
      refine (JoinOn.text_renders hword (by simpa [hsome] using hon)).map fun _ _ h => ?_
      exact .cons (.glue_right (by decide) (.lead (by decide) h)) .nil
  · exact .glue_right (by decide) (.lead (by decide) (.listed (Plain.forall₂ hcolumns)))

theorem optionsText_renders {o : JoinOptions Query} (ho : Plain (optionTexts o))
    (hqueries : queries (.options o) = []) :
    Renders m n (optionsText o) (optionsText o) := by
  have htarget : RendersAll m n (targetParts o.aliasName o.target)
      (targetParts o.aliasName o.target) := by
    simp only [Plain, optionTexts, Bindings.covers_append] at ho
    obtain ⟨⟨⟨⟨⟨htable, halias⟩, -⟩, -⟩, -⟩, -⟩ := ho
    rw [queries] at hqueries
    cases ht : o.target with
    | none => exact .throw _
    | some target =>
      rw [ht] at htable hqueries
      cases target with
      | query q => cases hqueries
      | table name =>
        refine .ite (.throw _) (.pure (Plain.forall₂ (Bindings.covers_cons.2 ⟨?_, halias⟩)))
        exact htable name (by simp [targetTexts])
  have hkind : Plain (o.kind.toList ++ ["JOIN"]) := by
    simp only [Plain, optionTexts, Bindings.covers_append] at ho ⊢
    exact ⟨ho.2, by simp⟩
  refine htarget.bind fun _ _ htarget => (linkParts_renders ho).map fun _ _ hlink => ?_
  exact .spaced (List.rel_append (List.rel_append hkind.forall₂ htarget) hlink)

theorem text_renders {kind : Option JoinKind} {j : Join Query} (hj : Plain j.sqlTexts)
    (hqueries : j.queries = []) : Renders m n (j.text kind) (j.text kind) := by
  cases j with
  | raw sql =>
    refine .ite (.throw _) (.pure (.plain ?_))
    have hraw := supplies_rawText (hj sql (List.mem_singleton_self sql)) kind
    exact plain_iff.1 (Bindings.covers_cons.2 ⟨hraw, Bindings.covers_nil _⟩) _
      (List.mem_singleton_self _)
  | query q => exact .throw _
  | options o =>
    refine optionsText_renders ?_ hqueries
    simp only [sqlTexts, Plain, optionTexts, Bindings.covers_append] at hj ⊢
    refine ⟨hj.1, ?_⟩
    cases kind with
    | none => exact hj.2
    | some k => simp [supplies_keyword]

end Join

/-! ## Assignments -/

theorem Edit.assignedText_renders {v : Operand} {modifier : Option String}
    (h : Plain (v.sqlTexts ++ modifier.toList)) :
    Renders m n (assignedText v modifier) (assignedText v modifier) := by
  cases v with
  | raw sql => exact .pure (Plain.single (Bindings.covers_append.1 h).1)
  | value _ | data _ _ => exact Binder.bindOperand_renders h
  | list _ | object _ => exact .throw _

end SqlBuilder
