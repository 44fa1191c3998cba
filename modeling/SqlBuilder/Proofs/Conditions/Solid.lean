import SqlBuilder.Proofs.Conditions.Nested
import SqlBuilder.Proofs.Frame
import SqlBuilder.Proofs.Keeps
import SqlBuilder.Proofs.Session
import SqlBuilder.Proofs.Supply.Texts

/-!
# Conditions that are not blank

A text is solid if it has a character that is not blank. Whatever is written for a condition is
solid, for it has an operator, a keyword or a parenthesis in it; only a fragment that the caller
wrote as SQL and that is given without a value gets into the conditions as it is.

So a condition whose fragments are solid adds solid clauses (`Condition.text_solid`), provided that
the conditions of the queries in it are solid. No other call touches the conditions, and so they
stay solid in every query of a session whose caller gives no blank fragment
(`Session.solidConditions_run`).
-/

namespace SqlBuilder

/-! ## Solid texts -/

/-- A character of the text is not blank. -/
def Text.Solid (s : String) : Prop := isBlankText s = false

open Text (Solid)

namespace Text

theorem solid_iff {s : String} : Solid s ↔ ∃ c ∈ s.toList, isBlank c = false := by
  simp [Solid, isBlankText]

theorem solid_of_mem {s : String} {c : Char} (h : c ∈ s.toList) (hc : isBlank c = false) :
    Solid s :=
  solid_iff.2 ⟨c, h, hc⟩

theorem solid_append {s t : String} : Solid (s ++ t) ↔ Solid s ∨ Solid t := by
  simp only [solid_iff, String.toList_append, List.mem_append, or_and_right, exists_or]

theorem Solid.append_left {t : String} (h : Solid t) (s : String) : Solid (s ++ t) :=
  solid_append.2 (.inr h)

theorem Solid.append_right {s : String} (h : Solid s) (t : String) : Solid (s ++ t) :=
  solid_append.2 (.inl h)

instance (s : String) : Decidable (Solid s) := inferInstanceAs (Decidable (_ = _))

theorem not_solid_empty : ¬ Solid "" := by decide

/-- One solid part makes the whole solid. -/
theorem solid_intercalate {separator text : String} {texts : List String} (hmem : text ∈ texts)
    (h : Solid text) : Solid (separator.intercalate texts) := by
  induction texts with
  | nil => cases hmem
  | cons first rest ih =>
    cases rest with
    | nil =>
      obtain rfl := List.mem_singleton.1 hmem
      rwa [String.intercalate_singleton]
    | cons next rest =>
      rw [String.intercalate_cons_cons]
      rcases List.mem_cons.1 hmem with rfl | hmem
      · exact (h.append_right separator).append_right _
      · exact (ih hmem).append_left _

end Text

/-! ## What stands for values -/

namespace Binder

theorem solid_tokenOf (n : Nat) : Solid (tokenOf n) :=
  Text.solid_of_mem (c := '{') (by simp [tokenOf, Placeholder.token, Placeholder.openBraces])
    (by decide)

theorem solid_applied (modifier : Option String) {text : String} (h : Solid text) :
    Solid (applied modifier text) := by
  cases modifier with
  | none => exact h
  | some m => exact ((h.append_left (m ++ "(")).append_right ")")

theorem solid_inline {v : Value} {word : String} (h : inline? v = some word) : Solid word := by
  unfold inline? at h
  split at h <;> cases h <;> decide

theorem bind_solid (v : Value) (modifier : Option String) :
    Keeps (fun _ => True) Solid (Binder.bind v modifier : Render String) := by
  refine .lift fun b _ => ⟨trivial, ?_⟩
  cases h : inline? v with
  | some word =>
    rw [bind_of_inline h]
    exact solid_inline h
  | none =>
    rw [bind_of_not_inline h]
    exact solid_applied modifier (solid_tokenOf _)

theorem bindOperand_solid (v : Operand) (modifier : Option String) :
    Keeps (fun _ => True) Solid (bindOperand v modifier) := by
  cases v with
  | value v => exact bind_solid v modifier
  | data v own => exact bind_solid v _
  | list _ | raw _ | object _ => exact .throw _

end Binder

/-! ## What is written for a condition -/

namespace Condition

/-- Every text in the list is solid. -/
abbrev AllSolid (texts : List String) : Prop := ∀ s ∈ texts, Solid s

theorem allSolid_append {as bs : List String} :
    AllSolid (as ++ bs) ↔ AllSolid as ∧ AllSolid bs :=
  List.forall_mem_append

theorem joined_solid {connective : Connective} {parts : List String} (h : AllSolid parts) :
    ∀ s ∈ joined connective parts, Solid s := by
  intro s hs
  match parts with
  | [] => cases hs
  | [part] =>
    cases hs
    exact h s (List.mem_singleton_self s)
  | _ :: _ :: _ =>
    cases hs
    exact ((show Solid "(" by decide).append_right _).append_right ")"

theorem combined_solid {parts : List String} (h : AllSolid parts) :
    ∀ s ∈ combined parts, Solid s := by
  unfold combined
  split
  · exact joined_solid fun s hs => h s (List.mem_of_mem_tail hs)
  · exact joined_solid h

theorem toList_solid {o : Option String} (h : ∀ s ∈ o, Solid s) : AllSolid o.toList :=
  fun s hs => h s (Option.mem_toList.1 hs)

mutual

theorem compare_solid (operator : String) (modifier : Option String) (field : String) :
    (v : Operand) → Keeps (fun _ => True) AllSolid (compare operator modifier field v)
  | .list items => by
    unfold compare
    cases membership? operator with
    | some keyword =>
      refine .bind (.any _) fun texts _ => .pure fun s hs => ?_
      obtain rfl := List.mem_singleton.1 hs
      exact (show Solid ")" by decide).append_left _
    | none => exact compareEach_solid operator modifier field items
  | .value v => .bind (Binder.bindOperand_solid (.value v) modifier) fun text htext =>
      .pure fun s hs => List.mem_singleton.1 hs ▸ htext.append_left _
  | .data v own => .bind (Binder.bindOperand_solid (.data v own) modifier) fun text htext =>
      .pure fun s hs => List.mem_singleton.1 hs ▸ htext.append_left _
  | .raw _ | .object _ => .throw _

theorem compareEach_solid (operator : String) (modifier : Option String) (field : String) :
    (vs : List Operand) → Keeps (fun _ => True) AllSolid (compareEach operator modifier field vs)
  | [] => .pure fun _ hs => nomatch hs
  | v :: vs => by
    unfold compareEach
    exact .bind (compare_solid operator modifier field v) fun first hfirst =>
      .bind (compareEach_solid operator modifier field vs) fun rest hrest =>
        .pure (allSolid_append.2 ⟨hfirst, hrest⟩)

end

theorem compareFields_solid (operator : String) (modifier : Option String)
    (fs : List (String × Operand)) :
    Keeps (fun _ => True) AllSolid (compareFields operator modifier fs) := by
  induction fs generalizing operator with
  | nil => exact .pure fun _ hs => nomatch hs
  | cons f fs ih =>
    unfold compareFields
    split
    · exact ih _
    · exact .bind (compare_solid operator modifier f.1 f.2) fun first hfirst =>
        .bind (ih operator) fun rest hrest => .pure (allSolid_append.2 ⟨hfirst, hrest⟩)

theorem objectText_solid (operator : String) (modifier : Option String) (f : Fields) :
    Keeps (fun _ => True) (fun o => ∀ s ∈ o, Solid s) (objectText operator modifier f) :=
  .bind (compareFields_solid operator modifier f.entries) fun _ h => .pure (joined_solid h)

theorem embedGroup_solid {q : Query} (h : AllSolid q.conditions) :
    Keeps (fun _ => True) AllSolid (q.embedGroup : Render (List String)) := by
  refine .lift fun b _ => ⟨trivial, ?_⟩
  change AllSolid q.group
  unfold Query.group
  split
  · exact List.forall_mem_cons.2 ⟨by decide, h⟩
  · exact h

mutual

theorem parts_solid (operator : String) (modifier : Option String) : (c : Condition Query) →
    AllSolid c.fragments → (∀ q ∈ c.queries, AllSolid q.conditions) →
      Keeps (fun _ => True) AllSolid (parts operator modifier c)
  | .raw _, h, _ => .pure h
  | .list items, h, hq => partsOfItems_solid operator modifier items h hq
  | .fields f, _, _ => by
    refine .bind (objectText_solid operator modifier f) fun text htext => ?_
    exact .pure (toList_solid htext)
  | .query q, _, hq => by
    have hgroup := embedGroup_solid (hq q (List.mem_singleton_self q))
    refine .bind hgroup fun group h => ?_
    exact .pure (toList_solid (combined_solid h))
  | .value _, _, _ => .throw _

theorem partsOfItems_solid (operator : String) (modifier : Option String) :
    (cs : List (Condition Query)) → AllSolid (fragmentsOfItems cs) →
      (∀ q ∈ queriesOfItems cs, AllSolid q.conditions) →
        Keeps (fun _ => True) AllSolid (partsOfItems operator modifier cs)
  | [], _, _ => .pure fun _ hs => nomatch hs
  | c :: cs, h, hq => by
    rw [fragmentsOfItems, allSolid_append] at h
    rw [queriesOfItems, List.forall_mem_append] at hq
    unfold partsOfItems
    exact .bind (parts_solid operator modifier c h.1 hq.1) fun first hfirst =>
      .bind (partsOfItems_solid operator modifier cs h.2 hq.2) fun rest hrest =>
        .pure (allSolid_append.2 ⟨hfirst, hrest⟩)

end

theorem compareAll_solid (operator : String) (modifier : Option String) (v : Operand)
    (names : List String) :
    Keeps (fun _ => True) AllSolid (compareAll operator modifier v names) := by
  induction names with
  | nil => exact .pure fun _ hs => nomatch hs
  | cons name names ih =>
    exact .bind (compare_solid operator modifier name v) fun first hfirst =>
      .bind ih fun rest hrest => .pure (allSolid_append.2 ⟨hfirst, hrest⟩)

theorem partsWith_solid (operator : String) (modifier : Option String) (c : Condition Query)
    (v : Option Operand) (h : v = none → AllSolid c.fragments)
    (hq : ∀ q ∈ c.queries, AllSolid q.conditions) :
    Keeps (fun _ => True) AllSolid (partsWith operator modifier c v) := by
  cases v with
  | some v =>
    cases c with
    | raw _ | list _ =>
      exact .bind (.any _) fun names _ => compareAll_solid operator modifier v names
    | fields _ | query _ | value _ => exact .throw _
  | none =>
    cases c with
    | raw sql => exact .pure (h rfl)
    | list items => exact partsOfItems_solid operator modifier items (h rfl) hq
    | fields f =>
      exact .bind (objectText_solid operator modifier f) fun _ h => .pure (toList_solid h)
    | query q => exact embedGroup_solid (hq q (List.mem_singleton_self q))
    | value _ => exact .throw _

/-- A condition without blank fragments comes to a solid text, if it comes to any. -/
theorem text_solid (c : Condition Query) (v : Option Operand) (operator modifier : Option String)
    (h : v = none → AllSolid c.fragments) (hq : ∀ q ∈ c.queries, AllSolid q.conditions) :
    Keeps (fun _ => True) (fun o => ∀ s ∈ o, Solid s) (text c v operator modifier) :=
  .bind (partsWith_solid _ modifier c v h hq) fun _ h => .pure (combined_solid h)

end Condition

/-! ## Queries with solid conditions -/

open Condition (AllSolid)

/-- No condition of the query is blank. -/
def Draft.SolidConditions (d : Draft) : Prop := AllSolid d.query.conditions

namespace Edit

theorem addCondition_solid {c : Condition Query} {v : Option Operand}
    (operator modifier : Option String) (h : v = none → AllSolid c.fragments)
    (hq : ∀ q ∈ c.queries, AllSolid q.conditions) :
    Keeps Draft.SolidConditions (fun _ => True) (addCondition c v operator modifier) := by
  have hwrite := write_keeps (I := Draft.SolidConditions) (fun _ _ h => h)
    (Condition.text_solid c v operator modifier h hq)
  refine .bind hwrite fun text htext => change_keeps (fun d hd => ?_) trivial
  exact Condition.allSolid_append.2 ⟨hd, Condition.toList_solid htext⟩

theorem between_solid (field : String) (low high : Value) (modifier : Option String) :
    Keeps Draft.SolidConditions (fun _ => True) (between field low high modifier) := by
  refine .bind (write_keeps (fun _ _ h => h) (.any _)) fun low _ =>
    .bind (write_keeps (fun _ _ h => h) (.any _)) fun high _ =>
      addCondition_solid none none (fun _ s hs => ?_) fun q hq => nomatch hq
  obtain rfl := List.mem_singleton.1 hs
  have hword : Text.Solid (" BETWEEN ") := by decide
  exact (((hword.append_left _).append_right _).append_right _).append_right _

theorem inRange_solid (field : String) (low high : Value) :
    Keeps Draft.SolidConditions (fun _ => True) (inRange field low high) := by
  unfold inRange
  split
  · exact .pure trivial
  · exact addCondition_solid _ none (fun h => nomatch h) fun q hq => nomatch hq
  · exact addCondition_solid _ none (fun h => nomatch h) fun q hq => nomatch hq
  · exact between_solid field low high none

end Edit

namespace Call

/-- The fragments that a call gives as conditions of their own. -/
def fragments {Q : Type} : Call Q → List String
  | addCondition c none _ _ => c.fragments
  | _ => []

theorem solidConditions_run {c : Call Query} (h : AllSolid c.fragments)
    (hq : ∀ q ∈ c.queries, AllSolid q.conditions) {d : Draft} (hd : d.SolidConditions) :
    (c.run d).2.SolidConditions := by
  by_cases hc : c.isCondition = false
  · unfold Draft.SolidConditions
    rwa [conditions_run hc]
  · have hrun : Keeps Draft.SolidConditions (fun _ => True) c.run := by
      cases c with
      | clearConditions =>
        exact .bind (P := fun _ => True) (Edit.change_keeps (fun _ _ _ hs => nomatch hs) trivial)
          fun _ _ => .pure trivial
      | addCondition c v operator modifier =>
        refine .bind (Edit.addCondition_solid operator modifier (fun hv => ?_) hq)
          fun _ _ => .pure trivial
        subst hv
        exact h
      | between field low high modifier =>
        exact .bind (Edit.between_solid field low high modifier) fun _ _ => .pure trivial
      | inRange field low high =>
        exact .bind (Edit.inRange_solid field low high) fun _ _ => .pure trivial
      | _ => exact absurd rfl hc
    exact (hrun d hd).1

section Resolve

variable {Q R : Type} {find? : Q → Option R}

mutual

theorem fragments_resolveCondition : {c : Condition Q} → {d : Condition R} →
    resolveCondition find? c = some d → d.fragments = c.fragments
  | .raw _, _, h | .fields _, _, h | .value _, _, h => by
    cases h
    rfl
  | .query _, _, h => by
    obtain ⟨_, -, rfl⟩ := Option.map_eq_some_iff.1 h
    rfl
  | .list cs, _, h => by
    obtain ⟨ds, hds, rfl⟩ := Option.map_eq_some_iff.1 h
    exact fragments_resolveItems hds

theorem fragments_resolveItems : {cs : List (Condition Q)} → {ds : List (Condition R)} →
    resolveItems find? cs = some ds →
      Condition.fragmentsOfItems ds = Condition.fragmentsOfItems cs
  | [], _, h => by
    cases h
    rfl
  | c :: cs, _, h => by
    obtain ⟨d, hd, h⟩ := Option.bind_eq_some_iff.1 h
    obtain ⟨ds, hds, h⟩ := Option.bind_eq_some_iff.1 h
    cases h
    rw [Condition.fragmentsOfItems, Condition.fragmentsOfItems, fragments_resolveCondition hd,
      fragments_resolveItems hds]

end

/-- Names of queries have nothing to do with fragments. -/
theorem fragments_resolve {c : Call Q} {d : Call R} (h : c.resolve find? = some d) :
    d.fragments = c.fragments := by
  cases c with
  | addCondition c v operator modifier =>
    obtain ⟨e, he, rfl⟩ := Option.map_eq_some_iff.1 h
    cases v with
    | none => exact fragments_resolveCondition he
    | some v => rfl
  | fromSubquery _ _ | columns _ | selectColumns _ | addColumn _ _ | join _ _ =>
    obtain ⟨_, -, rfl⟩ := Option.map_eq_some_iff.1 h
    rfl
  | _ =>
    cases h
    rfl

end Resolve

end Call

/-! ## Sessions with solid conditions -/

/-- The command reads no snapshot and gives no blank fragment as a condition. -/
def Command.GivesSolid : Command → Prop
  | .create _ how => how.readsState = false
  | .call _ c => AllSolid c.fragments
  | _ => True

instance : (c : Command) → Decidable c.GivesSolid
  | .create _ _ => inferInstanceAs (Decidable (_ = _))
  | .call _ c => inferInstanceAs (Decidable (∀ s ∈ c.fragments, _))
  | .setDefaultBound _ | .compile _ | .literalText _ | .state _ | .equals _ _ | .exec _ _ =>
    .isTrue trivial

namespace Session

/-- No condition of any query is blank. -/
def SolidConditions (s : Session) : Prop :=
  ∀ name q, s.queries.get? name = some q → AllSolid q.conditions

theorem SolidConditions.insert {s : Session} (h : s.SolidConditions) {q : Query}
    (hq : AllSolid q.conditions) (name : String) (lastId : Nat) :
    SolidConditions { s with queries := s.queries.insert name q, lastId := lastId } :=
  fun _ _ => forall_insert (P := fun _ q => AllSolid q.conditions) hq fun other r _ => h other r

theorem solidConditions_step {s : Session} (h : s.SolidConditions) {c : Command}
    (hc : c.GivesSolid) : (s.step c).2.SolidConditions := by
  generalize ht : (s.step c).2 = t
  have hmoves := ht ▸ s.moves_step c
  cases hmoves with
  | rests _ hqueries _ => exact fun name q hq => h name q (hqueries ▸ hq)
  | creates name hq =>
    refine h.insert ?_ name s.lastId
    rcases Creation.query_cases hq hc with ⟨other, hother⟩ | hbegins
    · exact h other _ hother
    · rw [hbegins]
      exact fun _ hs => nomatch hs
  | calls hq hd =>
    refine h.insert (Call.solidConditions_run ?_ (fun r hr => ?_) (h _ _ hq)) _ _
    · rw [Call.fragments_resolve hd]
      exact hc
    · obtain ⟨other, hother⟩ := Call.mem_queries_resolve hd r hr
      exact h other r hother

theorem solidConditions_run {s : Session} (h : s.SolidConditions) {cs : List Command}
    (hcs : ∀ c ∈ cs, c.GivesSolid) : (s.run cs).2.SolidConditions := by
  induction cs generalizing s with
  | nil => exact h
  | cons c cs ih =>
    rw [List.forall_mem_cons] at hcs
    exact ih (solidConditions_step h hcs.1) hcs.2

end Session
end SqlBuilder
