import SqlBuilder.Proofs.Conditions.Documented
import SqlBuilder.Proofs.Conditions.Solid
import SqlBuilder.Proofs.Merging.Embedding

/-!
# Writing a condition follows its formula

Writing a condition goes through the values in the order in which the formula of the condition
numbers them. `Follows` relates the two computations: the numbers are the same, both come to an
outcome or neither does, and the outcomes are related. Each function that writes a part of a
condition is gone through once, by the rules for it, up to whole conditions
(`Condition.text_follows`).

What is written for a formula is its canonical print (`Condition.Prints`). The parts of a list come
together as the formula has them because only the caller can give the word AND as a part: every part
that is more than a fragment has a blank or a parenthesis in it. A query in a condition adds the
group of its conditions, which are prints already (`Condition.Knows`).

A condition that names a query which does not exist is not written at all, and stands for nothing
(`Call.formulaWith_of_unknown`).
-/

namespace SqlBuilder

variable {α β γ δ : Type}

/-! ## Writing in the order of the numbers -/

/-- Both came to an outcome, with the same number to go on with, or neither did. -/
def Agrees (R : α → β → Prop) : Except Failure α × Binder → Option (β × Nat) → Prop
  | (.ok a, b), some (x, n) => b.lastId = n ∧ R a x
  | (.error _, _), none => True
  | _, _ => False

/-- Writing generates the numbers that the numbering hands out, and the outcomes are related. -/
def Follows (r : Render α) (m : Numbering β) (R : α → β → Prop) : Prop :=
  ∀ b : Binder, Agrees R (r b) (m b.lastId)

namespace Follows

variable {r : Render α} {m : Numbering β} {R : α → β → Prop}

theorem pure {a : α} {x : β} (h : R a x) : Follows (Pure.pure a) (Pure.pure x) R :=
  fun _ => ⟨rfl, h⟩

theorem throw (f : Failure) : Follows (MonadExcept.throw f : Render α) (failure : Numbering β) R :=
  fun _ => trivial

theorem bind {k : α → Render γ} {l : β → Numbering δ} {S : γ → δ → Prop} (h : Follows r m R)
    (hk : ∀ a x, R a x → Follows (k a) (l x) S) : Follows (r >>= k) (m >>= l) S := by
  intro b
  have hb := h b
  have hbind : (m >>= l) b.lastId = (m b.lastId).bind fun p => l p.1 p.2 := rfl
  rcases hr : r b with ⟨f | a, c⟩ <;> rcases hm : m b.lastId with _ | ⟨x, n⟩ <;>
    rw [hr, hm] at hb
  · rw [bind_of_error hr, hbind, hm]
    trivial
  · exact hb.elim
  · exact hb.elim
  · obtain ⟨rfl, hR⟩ := hb
    rw [bind_of_ok hr, hbind, hm]
    exact hk a x hR c

/-- What is done with the outcome of writing needs no number. -/
theorem map {S : γ → β → Prop} {f : α → γ} (h : Follows r m R)
    (hf : ∀ a x, R a x → S (f a) x) : Follows (do return f (← r)) m S := by
  have hbind := h.bind (l := Pure.pure) (S := S) fun a x hR => pure (a := f a) (hf a x hR)
  rwa [bind_pure] at hbind

/-- A step that draws no number has nothing to follow. -/
theorem bind_left {k : γ → Render α} {s : StateM Binder γ} (h : ∀ b, (s b).2.lastId = b.lastId)
    (hk : ∀ b, Follows (k (s b).1) m R) :
    Follows ((s : Render γ) >>= k) m R := fun b => by
  have hb := hk b (s b).2
  rwa [h b] at hb

end Follows

/-! ## Comparisons -/

/-- A text with a character that the word AND does not have. -/
theorem ne_leadingAnd {s : String} {c : Char} (h : c ∈ s.toList)
    (hc : c ∉ Query.leadingAnd.toList) : s ≠ Query.leadingAnd := by
  rintro rfl
  exact hc h

/-- The same texts, none of which is the word AND. -/
def SameTexts (as bs : List String) : Prop := as = bs ∧ Query.leadingAnd ∉ as

theorem SameTexts.append {as bs as' bs' : List String} (h : SameTexts as bs)
    (h' : SameTexts as' bs') : SameTexts (as ++ as') (bs ++ bs') :=
  ⟨by rw [h.1, h'.1], fun hmem => (List.mem_append.1 hmem).elim h.2 h'.2⟩

theorem SameTexts.singleton {s : String} {c : Char} (h : c ∈ s.toList)
    (hc : c ∉ Query.leadingAnd.toList) : SameTexts [s] [s] :=
  ⟨rfl, fun hmem => ne_leadingAnd h hc (List.mem_singleton.1 hmem).symm⟩

/-- Texts written one batch after the other are those of all comparisons. -/
theorem Follows.append {r r' : Render (List String)} {cs ds : List Comparison}
    (h : Follows r (cs.mapM Comparison.text) SameTexts)
    (h' : Follows r' (ds.mapM Comparison.text) SameTexts) :
    Follows (do let first ← r; return first ++ (← r')) ((cs ++ ds).mapM Comparison.text)
      SameTexts := by
  rw [List.mapM_append]
  exact h.bind fun _ _ hfirst => h'.bind fun _ _ hrest => .pure (hfirst.append hrest)

theorem lift_of_eq {s : StateM Binder α} {a : α} {b c : Binder} (h : s b = (a, c)) :
    (s : Render α) b = (.ok a, c) := by
  change (Except.ok (s b).1, (s b).2) = _
  rw [h]

theorem value_follows (v : Value) (modifier : Option String) :
    Follows (Binder.bind v modifier : Render String) (Numbering.value v modifier) Eq := by
  intro b
  cases h : Binder.inline? v with
  | some word =>
    rw [lift_of_eq (Binder.bind_of_inline h modifier b), Numbering.value, h]
    exact ⟨rfl, rfl⟩
  | none =>
    rw [lift_of_eq (Binder.bind_of_not_inline h modifier b), Numbering.value, h]
    exact ⟨rfl, rfl⟩

theorem operand_follows (v : Operand) (modifier : Option String) :
    Follows (Binder.bindOperand v modifier) (Numbering.operand v modifier) Eq := by
  cases v with
  | value v => exact value_follows v modifier
  | data v own => exact value_follows v _
  | list _ | raw _ | object _ => exact .throw _

theorem operands_follow (vs : List Operand) (modifier : Option String) :
    Follows (vs.mapM fun v => Binder.bindOperand v modifier)
      (vs.mapM fun v => Numbering.operand v modifier) Eq := by
  induction vs with
  | nil => exact .pure rfl
  | cons v vs ih =>
    rw [List.mapM_cons, List.mapM_cons]
    exact (operand_follows v modifier).bind fun _ _ hfirst => ih.bind fun _ _ hrest =>
      .pure (by rw [hfirst, hrest])

namespace Condition

theorem single_follows (operator : String) (modifier : Option String) (field : String)
    (v : Operand) :
    Follows (do return [field ++ " " ++ operator ++ " " ++ (← Binder.bindOperand v modifier)])
      ([Comparison.single field operator v modifier].mapM Comparison.text) SameTexts := by
  simp only [List.mapM_cons, List.mapM_nil, Comparison.text, bind_assoc, pure_bind]
  refine (operand_follows v modifier).bind fun text _ htext => .pure ?_
  subst htext
  exact .singleton (c := ' ') (by simp) (by decide)

theorem member_follows (keyword : String) (modifier : Option String) (field : String)
    (vs : List Operand) :
    Follows (do
        let texts ← vs.mapM fun v => Binder.bindOperand v modifier
        return [field ++ " " ++ keyword ++ " (" ++ ",".intercalate texts ++ ")"])
      ([Comparison.member field keyword vs modifier].mapM Comparison.text) SameTexts := by
  simp only [List.mapM_cons, List.mapM_nil, Comparison.text, bind_assoc, pure_bind]
  refine (operands_follow vs modifier).bind fun texts _ htexts => .pure ?_
  subst htexts
  exact .singleton (c := ' ') (by simp) (by decide)

mutual

theorem compare_follows (operator : String) (modifier : Option String) (field : String) :
    (v : Operand) → Follows (compare operator modifier field v)
      ((v.comparisons operator modifier field).mapM Comparison.text) SameTexts
  | .list items => by
    unfold compare
    rw [Operand.comparisons]
    by_cases heq : operator = "="
    · rw [heq, membership?, if_pos rfl, if_pos rfl]
      exact member_follows "IN" modifier field items
    · by_cases hne : operator = "!="
      · rw [hne, membership?, if_neg (by decide), if_pos rfl, if_neg (by decide), if_pos rfl]
        exact member_follows "NOT IN" modifier field items
      · rw [membership?, if_neg heq, if_neg hne, if_neg heq, if_neg hne]
        exact compareEach_follows modifier field heq hne items
  | .value v => single_follows operator modifier field (.value v)
  | .data v own => single_follows operator modifier field (.data v own)
  | .raw sql => single_follows operator modifier field (.raw sql)
  | .object fs => single_follows operator modifier field (.object fs)

theorem compareEach_follows {operator : String} (modifier : Option String) (field : String)
    (heq : operator ≠ "=") (hne : operator ≠ "!=") : (vs : List Operand) →
    Follows (compareEach operator modifier field vs)
      (((Operand.singlesOfItems vs).map fun v =>
        Comparison.single field operator v modifier).mapM Comparison.text) SameTexts
  | [] => .pure ⟨rfl, List.not_mem_nil⟩
  | v :: vs => by
    have hv : v.comparisons operator modifier field =
        v.singles.map fun v => Comparison.single field operator v modifier := by
      cases v with
      | list items => rw [Operand.comparisons, if_neg heq, if_neg hne, Operand.singles]
      | value _ | data _ _ | raw _ | object _ => rfl
    have hfirst := compare_follows operator modifier field v
    rw [hv] at hfirst
    rw [compareEach, Operand.singlesOfItems, List.map_append]
    exact hfirst.append (compareEach_follows modifier field heq hne vs)

end

theorem compareFields_follows (operator : String) (modifier : Option String)
    (fs : List (String × Operand)) :
    Follows (compareFields operator modifier fs)
      ((Fields.comparisons operator modifier fs).mapM Comparison.text) SameTexts := by
  induction fs generalizing operator with
  | nil => exact .pure ⟨rfl, List.not_mem_nil⟩
  | cons f fs ih =>
    rw [compareFields, Fields.comparisons]
    split
    · exact ih _
    · exact (compare_follows operator modifier f.1 f.2).append (ih operator)

theorem compareAll_follows (operator : String) (modifier : Option String) (v : Operand)
    (names : List String) :
    Follows (compareAll operator modifier v names)
      ((names.flatMap (v.comparisons operator modifier)).mapM Comparison.text) SameTexts := by
  induction names with
  | nil => exact .pure ⟨rfl, List.not_mem_nil⟩
  | cons name names ih =>
    rw [compareAll, List.flatMap_cons]
    exact (compare_follows operator modifier name v).append ih

/-! ## Groups -/

/-- Parts that are the prints of the formulas, and none of which is the word AND. -/
def PrintsAll (parts : List String) (ts : List (Formula String)) : Prop :=
  parts = Formula.printAll ts ∧ Query.leadingAnd ∉ parts

/-- A text that is the print of the formula and not the word AND, or no text for no print. -/
def Prints (text : Option String) (t : Formula String) : Prop :=
  text = t.print ∧ text ≠ some Query.leadingAnd

theorem PrintsAll.joined {connective : Connective} {parts : List String}
    {ts : List (Formula String)} (h : PrintsAll parts ts) :
    Prints (joined connective parts) (.group connective ts) := by
  refine ⟨by rw [Formula.print_group, h.1], fun hjoined => ?_⟩
  match parts with
  | [] => cases hjoined
  | [part] => exact h.2 (List.mem_singleton.2 (Option.some.inj hjoined).symm)
  | _ :: _ :: _ => exact ne_leadingAnd (c := '(') (by simp) (by decide) (Option.some.inj hjoined)

theorem PrintsAll.combined {parts : List String} {ts : List (Formula String)}
    (h : PrintsAll parts ts) : Prints (combined parts) (.group .or ts) := by
  have hhead : parts.head? ≠ some Query.leadingAnd := fun hhead =>
    h.2 (List.mem_of_mem_head? hhead)
  rw [Condition.combined, if_neg hhead]
  exact h.joined

theorem printsAll_map_atom {as bs : List String} (h : SameTexts as bs) :
    PrintsAll as (bs.map .atom) :=
  ⟨by rw [Formula.printAll_map_atom, h.1], h.2⟩

theorem PrintsAll.append {ps ps' : List String} {ts ts' : List (Formula String)}
    (h : PrintsAll ps ts) (h' : PrintsAll ps' ts') : PrintsAll (ps ++ ps') (ts ++ ts') := by
  refine ⟨?_, fun hmem => (List.mem_append.1 hmem).elim h.2 h'.2⟩
  rw [h.1, h'.1, Formula.printAll, Formula.printAll, Formula.printAll, List.filterMap_append]

theorem Prints.toList {text : Option String} {t : Formula String} (h : Prints text t) :
    PrintsAll text.toList [t] := by
  refine ⟨?_, fun hmem => h.2 (Option.mem_toList.1 hmem)⟩
  rw [h.1, Formula.printAll, List.filterMap_cons, List.filterMap_nil]
  cases t.print <;> rfl

/-- A single part is not changed by being combined. -/
theorem PrintsAll.single {ps : List String} {t : Formula String} (h : PrintsAll ps [t]) :
    Prints (Condition.combined ps) t := by
  obtain ⟨hps, hne⟩ := h
  have hsingle : ps = t.print.toList := by
    rw [hps, Formula.printAll, List.filterMap_cons, List.filterMap_nil]
    cases t.print <;> rfl
  subst hsingle
  cases hprint : t.print with
  | none => exact ⟨hprint.symm, (Option.some_ne_none _).symm⟩
  | some text =>
    rw [hprint] at hne
    have htext : some text ≠ some Query.leadingAnd := fun h =>
      hne (List.mem_singleton.2 (Option.some.inj h).symm)
    have hcombined : Condition.combined [text] = some text := if_neg htext
    exact ⟨hcombined.trans hprint.symm, fun h => htext (hcombined.symm.trans h)⟩

theorem objectText_follows (operator : String) (modifier : Option String) (f : Fields) :
    Follows (objectText operator modifier f)
      (Comparison.group .and (Fields.comparisons operator modifier f.entries)) Prints := by
  refine (compareFields_follows operator modifier f.entries).bind fun parts texts h => ?_
  exact .pure (printsAll_map_atom h).joined

/-! ## Conditions -/

/-- The queries that can be found are known by the formulas of their conditions. -/
def Knows (find? : String → Option Query) (known : String → Option (Formula String)) : Prop :=
  ∀ name, match find? name with
    | none => known name = none
    | some q => ∃ ts, PrintsAll q.conditions ts ∧
        known name = some (.group (if q.connective = some .and then .and else .or) ts)

section Documented

variable {find? : String → Option Query} {known : String → Option (Formula String)}
  (hknows : Knows find? known) (operator : String) (modifier : Option String)

include hknows

/-- A query adds the group of what it stands for. -/
theorem embedGroup_follows {name : String} {q : Query} (hq : find? name = some q) :
    Follows (do return combined (← q.embedGroup)) (known name : Numbering (Formula String))
      Prints := by
  have hname := hknows name
  rw [hq] at hname
  obtain ⟨ts, hts, hknown⟩ := hname
  rw [hknown]
  refine .bind_left (fun _ => rfl) fun _ => .pure ?_
  change Prints (combined q.group) _
  rw [Query.combined_group hts.2]
  exact hts.joined

theorem parts_follows {c : Condition String} {e : Condition Query} (hc : c.isElement = true)
    (he : Call.resolveCondition find? c = some e) :
    Follows (parts operator modifier e) (c.formula known operator modifier)
      fun ps t => PrintsAll ps [t] := by
  cases c with
  | raw sql =>
    cases he
    refine .pure ⟨by simp [Formula.printAll], fun hmem => of_decide_eq_true hc ?_⟩
    exact (List.mem_singleton.1 hmem).symm
  | fields f =>
    cases he
    exact (objectText_follows operator modifier f).map fun _ _ h => h.toList
  | query name =>
    obtain ⟨q, hq, rfl⟩ := Option.map_eq_some_iff.1 he
    exact (embedGroup_follows hknows hq).map fun _ _ h => h.toList
  | value v =>
    cases he
    exact .throw _
  | list items => cases hc

theorem partsOfItems_follows {cs : List (Condition String)} {es : List (Condition Query)}
    (hcs : cs.all isElement = true) (hes : Call.resolveItems find? cs = some es) :
    Follows (partsOfItems operator modifier es) (formulas known operator modifier cs)
      PrintsAll := by
  induction cs generalizing es with
  | nil =>
    cases hes
    exact .pure ⟨rfl, List.not_mem_nil⟩
  | cons c cs ih =>
    obtain ⟨e, he, hes⟩ := Option.bind_eq_some_iff.1 hes
    obtain ⟨es, hrest, hes⟩ := Option.bind_eq_some_iff.1 hes
    cases hes
    rw [List.all_cons, Bool.and_eq_true] at hcs
    rw [partsOfItems, formulas]
    refine (parts_follows hknows operator modifier hcs.1 he).bind fun first t hfirst => ?_
    refine (ih hcs.2 hrest).bind fun rest ts hrest => ?_
    exact .pure (hfirst.append hrest)

/-- A list that the word AND leads has that word as its first part, and no other such part. -/
theorem partsOfItems_follows_led {cs : List (Condition String)} {es : List (Condition Query)}
    (hcs : cs.all isElement = true) (hes : Call.resolveItems find? cs = some es) :
    Follows (partsOfItems operator modifier (raw Query.leadingAnd :: es))
      (formulas known operator modifier (raw Query.leadingAnd :: cs))
      fun ps ts => ps.head? = some Query.leadingAnd ∧ PrintsAll ps.tail ts.tail := by
  rw [partsOfItems, formulas, parts, formula, pure_bind, pure_bind]
  exact (partsOfItems_follows hknows operator modifier hcs hes).bind fun _ _ h => .pure ⟨rfl, h⟩

theorem list_follows {cs : List (Condition String)} {es : List (Condition Query)}
    (hcs : (list cs).isShallow = true) (hes : Call.resolveItems find? cs = some es) :
    Follows (do return combined (← partsOfItems operator modifier es))
      ((list cs).formula known operator modifier) Prints := by
  rw [isShallow] at hcs
  rw [formula]
  cases hleads : leads cs with
  | false =>
    rw [hleads] at hcs
    exact (partsOfItems_follows hknows operator modifier hcs hes).bind fun _ _ h =>
      .pure h.combined
  | true =>
    obtain ⟨rest, rfl⟩ := exists_of_leads hleads
    obtain ⟨es, hrest, hes⟩ := Option.bind_eq_some_iff.1 hes
    cases hes
    rw [hleads] at hcs
    refine (partsOfItems_follows_led hknows operator modifier hcs hrest).bind fun _ _ h => .pure ?_
    rw [combined, if_pos h.1]
    exact h.2.joined

/-- A condition without a value. -/
theorem textAlone_follows {c : Condition String} {e : Condition Query} (hc : c.isShallow = true)
    (he : Call.resolveCondition find? c = some e) :
    Follows (do return combined (← partsWith operator modifier e none))
      (c.formula known operator modifier) Prints := by
  cases c with
  | raw sql =>
    cases he
    exact (parts_follows hknows operator modifier (c := raw sql) hc rfl).map fun _ _ h => h.single
  | list cs =>
    obtain ⟨es, hes, rfl⟩ := Option.map_eq_some_iff.1 he
    exact list_follows hknows operator modifier hc hes
  | fields f =>
    cases he
    exact (parts_follows hknows operator modifier (c := fields f) rfl rfl).map fun _ _ h => h.single
  | query name =>
    obtain ⟨q, hq, rfl⟩ := Option.map_eq_some_iff.1 he
    exact embedGroup_follows hknows hq
  | value v =>
    cases he
    exact .throw _

end Documented

end Condition

/-! ## Names of fields -/

namespace Condition

variable {Q : Type}

mutual

/-- Just the conditions made of fragments and lists name fields, and these are their fragments. -/
theorem fieldNames_cases : (c : Condition Q) →
    (c.isLiteral = true ∧ fieldNames c = .ok c.fragments) ∨
      (c.isLiteral = false ∧ ∃ f, fieldNames c = .error f)
  | raw _ => .inl ⟨rfl, rfl⟩
  | list items => fieldNamesOfItems_cases items
  | fields _ | query _ | value _ => .inr ⟨rfl, _, rfl⟩

theorem fieldNamesOfItems_cases : (cs : List (Condition Q)) →
    (areLiteral cs = true ∧ fieldNamesOfItems cs = .ok (fragmentsOfItems cs)) ∨
      (areLiteral cs = false ∧ ∃ f, fieldNamesOfItems cs = .error f)
  | [] => .inl ⟨rfl, rfl⟩
  | c :: cs => by
    rw [areLiteral, fieldNamesOfItems, fragmentsOfItems]
    rcases fieldNames_cases c with ⟨hc, hnames⟩ | ⟨hc, f, hnames⟩
    · rcases fieldNamesOfItems_cases cs with ⟨hcs, hrest⟩ | ⟨hcs, f, hrest⟩
      · rw [hc, hcs, hnames, hrest]
        exact .inl ⟨rfl, rfl⟩
      · rw [hc, hcs, hnames, hrest]
        exact .inr ⟨rfl, f, rfl⟩
    · rw [hc, hnames]
      exact .inr ⟨rfl, f, rfl⟩

end

theorem partsWith_some (operator : String) (modifier : Option String) (c : Condition Query)
    (v : Operand) :
    (c.isLiteral = true ∧
      partsWith operator modifier c (some v) = compareAll operator modifier v c.fragments) ∨
      (c.isLiteral = false ∧ ∃ f, partsWith operator modifier c (some v) = throw f) := by
  rcases fieldNames_cases c with ⟨hc, hnames⟩ | ⟨hc, f, hnames⟩
  · refine .inl ⟨hc, ?_⟩
    cases c with
    | raw _ | list _ =>
      rw [partsWith, hnames]
      rfl
    | fields _ | query _ | value _ => cases hnames
  · refine .inr ⟨hc, ?_⟩
    cases c with
    | raw _ | list _ =>
      rw [partsWith, hnames]
      exact ⟨f, rfl⟩
    | fields _ | query _ | value _ => exact ⟨_, rfl⟩

end Condition

namespace Call

variable {Q R : Type} {find? : Q → Option R}

mutual

theorem isLiteral_resolveCondition : {c : Condition Q} → {d : Condition R} →
    resolveCondition find? c = some d → d.isLiteral = c.isLiteral
  | .raw _, _, h | .fields _, _, h | .value _, _, h => by
    cases h
    rfl
  | .query _, _, h => by
    obtain ⟨_, -, rfl⟩ := Option.map_eq_some_iff.1 h
    rfl
  | .list cs, _, h => by
    obtain ⟨ds, hds, rfl⟩ := Option.map_eq_some_iff.1 h
    exact areLiteral_resolveItems hds

theorem areLiteral_resolveItems : {cs : List (Condition Q)} → {ds : List (Condition R)} →
    resolveItems find? cs = some ds → Condition.areLiteral ds = Condition.areLiteral cs
  | [], _, h => by
    cases h
    rfl
  | c :: cs, _, h => by
    obtain ⟨d, hd, h⟩ := Option.bind_eq_some_iff.1 h
    obtain ⟨ds, hds, h⟩ := Option.bind_eq_some_iff.1 h
    cases h
    rw [Condition.areLiteral, Condition.areLiteral, isLiteral_resolveCondition hd,
      areLiteral_resolveItems hds]

end

mutual

/-- A condition that does not resolve names a query, so it is not literal. -/
theorem not_isLiteral_of_resolveCondition : {c : Condition Q} →
    resolveCondition find? c = none → c.isLiteral = false
  | .raw _, h | .fields _, h | .value _, h => by cases h
  | .query _, _ => rfl
  | .list _, h => not_areLiteral_of_resolveItems (Option.map_eq_none_iff.1 h)

theorem not_areLiteral_of_resolveItems : {cs : List (Condition Q)} →
    resolveItems find? cs = none → Condition.areLiteral cs = false
  | [], h => by cases h
  | c :: cs, h => by
    rw [Condition.areLiteral, Bool.and_eq_false_iff]
    cases hc : resolveCondition find? c with
    | none => exact .inl (not_isLiteral_of_resolveCondition hc)
    | some d =>
      cases hcs : resolveItems find? cs with
      | none => exact .inr (not_areLiteral_of_resolveItems hcs)
      | some ds =>
        rw [resolveItems, hc, hcs] at h
        cases h

end

section Unknown

variable {known : Q → Option (Formula String)}

mutual

/-- A condition that does not resolve stands for nothing. -/
theorem formula_of_unknown (hknown : ∀ name, find? name = none → known name = none)
    (operator : String) (modifier : Option String) : {c : Condition Q} →
    resolveCondition find? c = none → ∀ n, c.formula known operator modifier n = none
  | .raw _, h, _ | .fields _, h, _ | .value _, h, _ => by cases h
  | .query name, h, n => by
    rw [Condition.formula, hknown name (Option.map_eq_none_iff.1 h)]
    rfl
  | .list cs, h, n => by
    have hcs := formulas_of_unknown hknown operator modifier (Option.map_eq_none_iff.1 h) n
    rw [Condition.formula]
    change Option.bind _ _ = none
    rw [hcs]
    rfl

theorem formulas_of_unknown (hknown : ∀ name, find? name = none → known name = none)
    (operator : String) (modifier : Option String) : {cs : List (Condition Q)} →
    resolveItems find? cs = none → ∀ n, Condition.formulas known operator modifier cs n = none
  | [], h, _ => by cases h
  | c :: cs, h, n => by
    rw [Condition.formulas]
    change Option.bind _ _ = none
    rw [Option.bind_eq_none_iff]
    intro first hfirst
    change Option.bind _ _ = none
    rw [Option.bind_eq_none_iff]
    intro rest hrest
    cases hc : resolveCondition find? c with
    | none =>
      rw [formula_of_unknown hknown operator modifier hc n] at hfirst
      cases hfirst
    | some d =>
      cases hcs : resolveItems find? cs with
      | none =>
        rw [formulas_of_unknown hknown operator modifier hcs first.2] at hrest
        cases hrest
      | some ds =>
        rw [resolveItems, hc, hcs] at h
        cases h

end

theorem formulaWith_of_unknown (hknown : ∀ name, find? name = none → known name = none)
    (operator : String) (modifier : Option String) {c : Condition Q}
    (h : resolveCondition find? c = none) (v : Option Operand) (n : Nat) :
    c.formulaWith known operator modifier v n = none := by
  cases v with
  | none => exact formula_of_unknown hknown operator modifier h n
  | some v =>
    rw [Condition.formulaWith, not_isLiteral_of_resolveCondition h]
    rfl

end Unknown

end Call

/-- Writing a condition follows the formula that it stands for. -/
theorem Condition.text_follows {find? : String → Option Query}
    {known : String → Option (Formula String)} (hknows : Knows find? known) {c : Condition String}
    {e : Condition Query} {v : Option Operand} (hc : v = none → c.isShallow = true)
    (he : Call.resolveCondition find? c = some e) (operator modifier : Option String) :
    Follows (text e v operator modifier)
      (c.formulaWith known (operator.getD "=") modifier v) Prints := by
  cases v with
  | none => exact textAlone_follows hknows _ modifier (hc rfl) he
  | some v =>
    rw [formulaWith, ← Call.isLiteral_resolveCondition he, ← Call.fragments_resolveCondition he,
      text]
    have hcases := partsWith_some (operator.getD "=") modifier e v
    rcases hcases with ⟨hliteral, hparts⟩ | ⟨hliteral, f, hparts⟩
    · rw [hliteral, hparts]
      refine (compareAll_follows _ modifier v e.fragments).bind fun parts texts h => ?_
      exact .pure (printsAll_map_atom h).combined
    · rw [hliteral, hparts]
      exact .throw f

end SqlBuilder
