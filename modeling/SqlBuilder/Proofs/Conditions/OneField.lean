import SqlBuilder.Proofs.Akin
import SqlBuilder.Proofs.Conditions.Follows

/-!
# A field on its own and as an object

A field can be compared with an operand in two ways: it is named and the operand given with it, or
the two are the only entry of an object. Either way the same comparisons are written, one after the
other, so that the same values are bound and the same operands refused. What differs is the group
they are put in: comparisons with the same field are alternatives where the field is named, and all
have to hold where it stands in an object.

A list of values makes several comparisons only under an operator that has no membership test. Just
then the two ways come to different clauses (`Call.one_field_two_ways`).
-/

namespace SqlBuilder

/-! ## Adding a condition -/

namespace Call

/-- Write a text and make it a clause, if it comes to anything. -/
def adding (r : Render (Option String)) : Edit (Option String) := do
  let text ← Edit.write r
  Edit.change fun q => { q with conditions := q.conditions ++ text.toList }
  return none

theorem adding_apply (r : Render (Option String)) (d : Draft) :
    adding r d =
      match r d.binder with
      | (.ok text, b) => (.ok none, (d.withBinder b).withClause text)
      | (.error f, b) => (.error f, d.withBinder b) := by
  rw [adding, Edit.write_bind]
  rcases r d.binder with ⟨f | text, b⟩
  · rfl
  · rfl

theorem run_addCondition (c : Condition Query) (v : Option Operand)
    (operator modifier : Option String) :
    (addCondition c v operator modifier).run = adding (c.text v operator modifier) := by
  change (Edit.addCondition c v operator modifier >>= fun _ => pure none) = _
  rw [Edit.addCondition, bind_assoc]
  rfl

end Call

/-! ## Comparisons of one field -/

namespace Condition

mutual

/-- What cannot be compared with is refused for its shape. -/
theorem compare_akin (operator : String) (modifier : Option String) (field : String) :
    (v : Operand) → Akin Eq (compare operator modifier field v) (compare operator modifier field v)
  | .list items => by
    unfold compare
    cases membership? operator with
    | some keyword =>
      refine (Binder.bindOperands_akin items modifier).map fun texts texts' h => ?_
      rw [h]
    | none => exact compareEach_akin operator modifier field items
  | .value v => (Binder.bindOperand_akin (.value v) modifier).map fun _ _ h => by rw [h]
  | .data v own => (Binder.bindOperand_akin (.data v own) modifier).map fun _ _ h => by rw [h]
  | .raw _ | .object _ => .throw _ _

theorem compareEach_akin (operator : String) (modifier : Option String) (field : String) :
    (vs : List Operand) →
      Akin Eq (compareEach operator modifier field vs) (compareEach operator modifier field vs)
  | [] => .pure rfl
  | v :: vs =>
    (compare_akin operator modifier field v).bind fun _ _ hfirst =>
      (compareEach_akin operator modifier field vs).map fun _ _ hrest => by rw [hfirst, hrest]

end

theorem length_of_mapM_text {cs : List Comparison} {texts : List String} {m n : Nat}
    (h : cs.mapM Comparison.text m = some (texts, n)) : texts.length = cs.length := by
  induction cs generalizing texts m n with
  | nil =>
    cases h
    rfl
  | cons c cs ih =>
    rw [List.mapM_cons] at h
    obtain ⟨⟨first, k⟩, -, h⟩ := Option.bind_eq_some_iff.1 h
    obtain ⟨⟨rest, l⟩, hrest, h⟩ := Option.bind_eq_some_iff.1 h
    cases h
    rw [List.length_cons, List.length_cons, ih hrest]

/-- The comparisons that are documented are written, or the operand is refused. -/
theorem compare_cases (operator : String) (modifier : Option String) (field : String)
    (v : Operand) (b : Binder) :
    (∃ w c, compare operator modifier field v b = (.error (.misfit w), c)) ∨
      ∃ texts c, compare operator modifier field v b = (.ok texts, c) ∧
        texts.length = (v.comparisons operator modifier field).length ∧
        Query.leadingAnd ∉ texts := by
  have hfollows := compare_follows operator modifier field v b
  rcases (compare_akin operator modifier field v).cases b with
    ⟨w, w', c, hcompare, -⟩ | ⟨texts, texts', c, hcompare, -, -⟩
  · exact .inl ⟨w, c, hcompare⟩
  · rw [hcompare] at hfollows
    rcases hm : (v.comparisons operator modifier field).mapM Comparison.text b.lastId with
      _ | ⟨texts', n⟩
    · rw [hm] at hfollows
      exact hfollows.elim
    · rw [hm] at hfollows
      obtain ⟨-, rfl, hand⟩ := hfollows
      exact .inr ⟨texts, c, hcompare, length_of_mapM_text hm, hand⟩

/-! ## One group or the other -/

theorem length_intercalate_cons (separator part : String) (parts : List String) :
    (separator.intercalate (part :: parts)).length =
      ("".intercalate (part :: parts)).length + parts.length * separator.length := by
  have hempty : "".length = 0 := rfl
  induction parts generalizing part with
  | nil => simp
  | cons next parts ih =>
    rw [String.intercalate_cons_cons, String.intercalate_cons_cons, String.length_append,
      String.length_append, String.length_append, String.length_append, ih, hempty,
      List.length_cons, Nat.succ_mul]
    omega

/-- Only between several members does the connective show in the text. -/
theorem joined_or_eq_joined_and_iff {parts : List String} :
    joined .or parts = joined .and parts ↔ parts.length ≤ 1 := by
  match parts with
  | [] => simp [joined]
  | [part] => simp [joined]
  | first :: second :: rest =>
    refine iff_of_false (fun h => ?_) (by simp)
    have hlength := congrArg String.length (Option.some.inj h)
    have hor : (" " ++ Connective.or.keyword ++ " ").length = 4 := by decide
    have hand : (" " ++ Connective.and.keyword ++ " ").length = 5 := by decide
    rw [String.length_append, String.length_append, String.length_append, String.length_append,
      length_intercalate_cons (" " ++ Connective.or.keyword ++ " "),
      length_intercalate_cons (" " ++ Connective.and.keyword ++ " "), hor, hand,
      List.length_cons] at hlength
    omega

/-! ## The two ways -/

/-- A single part that is not the word AND is not changed by being combined. -/
theorem combined_joined {connective : Connective} {parts : List String}
    (h : Query.leadingAnd ∉ parts) :
    combined (joined connective parts).toList = joined connective parts := by
  match parts with
  | [] => rfl
  | [part] => exact if_neg fun hpart => h (List.mem_singleton.2 (Option.some.inj hpart).symm)
  | first :: second :: rest =>
    exact if_neg fun htext =>
      ne_leadingAnd (c := '(') (by simp) (by decide) (Option.some.inj htext)

theorem text_named (field : String) (v : Operand) (operator modifier : Option String) :
    text (.raw field) (some v) operator modifier =
      (do
        let texts ← compare (operator.getD "=") modifier field v
        return combined texts) := by
  have hall (operator : String) :
      partsWith operator modifier (.raw field) (some v) = compare operator modifier field v := by
    change (do
      let first ← compare operator modifier field v
      return first ++ []) = _
    simp
  rw [text, hall]

theorem text_object {field : String} {v : Operand}
    (h : field = Fields.negationKey → v.isTrue = false) (operator modifier : Option String) :
    text (.fields (Fields.empty.insert field v)) none operator modifier =
      (do
        let texts ← compare (operator.getD "=") modifier field v
        return combined (joined .and texts).toList) := by
  have hmark : (decide (field = Fields.negationKey) && v.isTrue) = false := by
    by_cases hfield : field = Fields.negationKey
    · simp [h hfield]
    · simp [hfield]
  have hfields (operator : String) :
      compareFields operator modifier (Fields.empty.insert field v).entries =
        compare operator modifier field v := by
    change (if decide (field = Fields.negationKey) && v.isTrue then _ else do
      let first ← compare operator modifier field v
      return first ++ []) = _
    simp [hmark]
  rw [text, partsWith, objectText, hfields]
  simp

end Condition

namespace Call

/-- **A field on its own and in an object.** Unless the entry is a negation mark, both ways write
the comparisons of the field with the operand and leave the same bindings behind, or both are
refused for the shape of the operand. The clauses are the group of alternatives and the group under
AND of these comparisons, so they are the same just if there are no two of them. -/
theorem one_field_two_ways {field : String} {v : Operand}
    (h : field = Fields.negationKey → v.isTrue = false) (operator modifier : Option String)
    (d : Draft) :
    (∃ w e, (addCondition (.raw field) (some v) operator modifier).run d =
          (.error (.misfit w), e) ∧
        (addCondition (.fields (Fields.empty.insert field v)) none operator modifier).run d =
          (.error (.misfit w), e)) ∨
      ∃ (texts : List String) (e : Draft), texts.length =
          (v.comparisons (operator.getD "=") modifier field).length ∧
        (addCondition (.raw field) (some v) operator modifier).run d =
          (.ok none, e.withClause (Condition.joined .or texts)) ∧
        (addCondition (.fields (Fields.empty.insert field v)) none operator modifier).run d =
          (.ok none, e.withClause (Condition.joined .and texts)) ∧
        (Condition.joined .or texts = Condition.joined .and texts ↔ texts.length ≤ 1) := by
  rw [run_addCondition, run_addCondition, Condition.text_named, Condition.text_object h,
    adding_apply, adding_apply]
  rcases Condition.compare_cases (operator.getD "=") modifier field v d.binder with
    ⟨w, b, hcompare⟩ | ⟨texts, b, hcompare, hlength, hand⟩
  · rw [bind_of_error hcompare, bind_of_error hcompare]
    exact .inl ⟨w, d.withBinder b, rfl, rfl⟩
  · rw [bind_of_ok hcompare, bind_of_ok hcompare]
    have hor : Condition.combined texts = Condition.joined .or texts :=
      if_neg fun hhead => hand (List.mem_of_mem_head? hhead)
    refine .inr ⟨texts, d.withBinder b, hlength, ?_, ?_, Condition.joined_or_eq_joined_and_iff⟩
    · rw [hor]
      rfl
    · rw [Condition.combined_joined hand]
      rfl

/-- Two patterns for one name, the second one in a list of its own. -/
def patterns : Operand :=
  .list [.value (.text "bob%"), .list [.data (.text "jane%") (some "LOWER")]]

theorem one_field_two_ways_patterns :
    ("name" = Fields.negationKey → patterns.isTrue = false) ∧
      ∃ (texts : List String) (e : Draft), texts.length = 2 ∧
        (addCondition (.raw "name") (some patterns) (some "LIKE") none).run ⟨{}, 0, []⟩ =
          (.ok none, e.withClause (Condition.joined .or texts)) ∧
        (addCondition (.fields (Fields.empty.insert "name" patterns)) none (some "LIKE") none).run
          ⟨{}, 0, []⟩ = (.ok none, e.withClause (Condition.joined .and texts)) ∧
        Condition.joined .or texts ≠ Condition.joined .and texts := by
  have hname : "name" = Fields.negationKey → patterns.isTrue = false := by decide
  have hwritten : ((addCondition (.raw "name") (some patterns) (some "LIKE") none).run
      ⟨{}, 0, []⟩).1.isOk = true := by decide +kernel
  have htwo : (patterns.comparisons "LIKE" none "name").length = 2 := by decide +kernel
  rcases one_field_two_ways hname (some "LIKE") none ⟨{}, 0, []⟩ with
    ⟨w, e, hrefused, -⟩ | ⟨texts, e, hlength, hor, hand, hsame⟩
  · rw [hrefused] at hwritten
    cases hwritten
  · have hlength : texts.length = 2 := hlength.trans htwo
    exact ⟨hname, texts, e, hlength, hor, hand, fun h => by
      have := hsame.1 h
      omega⟩

/-- A name that is like one of two patterns, and an object that asks for both. -/
theorem liked_object_needs_both :
    ((whereLike (.raw "name") (.list [.value (.text "bob%"), .value (.text "jane%")])).run
        ⟨{}, 0, []⟩).2.query.conditions =
          ["(name LIKE {{binding1}} OR name LIKE {{binding2}})"] ∧
      ((whereLikeObject (Fields.empty.insert "name"
        (.list [.value (.text "bob%"), .value (.text "jane%")]))).run
          ⟨{}, 0, []⟩).2.query.conditions =
          ["(name LIKE {{binding1}} AND name LIKE {{binding2}})"] := by
  decide +kernel

end Call
end SqlBuilder
