import Mathlib.Data.List.Forall2
import Mathlib.Data.List.TakeWhile
import SqlBuilder.Proofs.Conditions.OneField

/-!
# What the fields of an object are tested for

An object of fields is read from the front, and a negation mark in it turns the operator for the
fields behind it. `Fields.tests` says the same without a running operator: the fields before the
first mark stand under the operator of the object, those behind it under the opposite one, and marks
stand for nothing themselves. That a second mark changes nothing more is a fact about operators: the
opposite of an opposite is that opposite again (`Condition.negated_negated`).

Both the conditions of a query and those of a join take their comparisons from these tests, each in
its own spelling.
-/

namespace SqlBuilder

/-! ## Operators -/

namespace Condition

/-- The operator that stands behind a negation mark in the place of another one. -/
inductive Opposite : String → String → Prop
  | equal : Opposite "=" "!="
  /-- In any mixture of small and capital letters. -/
  | like {operator : String} (h : operator.toList.map Char.toUpper = "LIKE".toList) :
    Opposite operator "NOT LIKE"
  | other {operator : String} (hequal : operator ≠ "=")
    (hlike : operator.toList.map Char.toUpper ≠ "LIKE".toList) : Opposite operator operator

theorem opposite_negated (operator : String) : Opposite operator (negated operator) := by
  have hword : "LIKE".toList = ['L', 'I', 'K', 'E'] := rfl
  unfold negated
  split_ifs with hequal hlike
  · rw [hequal]
    exact .equal
  · exact .like (hlike.trans hword.symm)
  · exact .other hequal fun h => hlike (h.trans hword)

/-- An operator that was turned is not turned again. -/
@[simp] theorem negated_negated (operator : String) :
    negated (negated operator) = negated operator := by
  have hopposite := opposite_negated operator
  generalize negated operator = opposite at hopposite
  cases hopposite with
  | equal => decide
  | like _ => decide
  | other hequal hlike => exact (if_neg hequal).trans (if_neg hlike)

/-- An operator has a membership test for lists just if the opposite one has. -/
theorem isSome_membership_negated (operator : String) :
    (membership? (negated operator)).isSome = (membership? operator).isSome := by
  by_cases hequal : operator = "="
  · rw [hequal]
    decide
  by_cases hlike : operator.toList.map Char.toUpper = ['L', 'I', 'K', 'E']
  · have hne : operator ≠ "!=" := by
      rintro rfl
      revert hlike
      decide
    rw [negated, if_neg hequal, if_pos hlike, membership?, membership?, if_neg hequal, if_neg hne]
    decide
  · rw [negated, if_neg hequal, if_neg hlike]

end Condition

/-! ## Tests -/

/-- A field with the operator and the operand it is compared with. -/
structure FieldTest where
  field : String
  operator : String
  operand : Operand

namespace FieldTest

/-- The comparisons of the field with the operand. -/
def texts (t : FieldTest) (modifier : Option String) : Render (List String) :=
  Condition.compare t.operator modifier t.field t.operand

end FieldTest

namespace Fields

/-- The entry is a negation mark. -/
def isMark (e : String × Operand) : Bool := e.1 = negationKey && e.2.isTrue

/-- Nothing but the true value under the key is a mark. -/
theorem isMark_iff (e : String × Operand) :
    isMark e = true ↔ e = (negationKey, .value (.bool true)) := by
  have htrue (v : Operand) : v.isTrue = true ↔ v = .value (.bool true) := by
    unfold Operand.isTrue
    split
    · exact iff_of_true rfl rfl
    · rename_i hne
      exact iff_of_false Bool.false_ne_true hne
  rw [isMark, Bool.and_eq_true, decide_eq_true_iff, htrue, Prod.ext_iff]

/-- An entry under an operator. -/
def testOf (operator : String) (e : String × Operand) : FieldTest := ⟨e.1, operator, e.2⟩

/-- What the fields are tested for: those before the first mark under the operator, and those behind
it under the opposite one. -/
def tests (operator opposite : String) (es : List (String × Operand)) : List FieldTest :=
  (es.takeWhile fun e => !isMark e).map (testOf operator) ++
    ((es.dropWhile fun e => !isMark e).filter fun e => !isMark e).map (testOf opposite)

/-- The fields without the marks. -/
def unmarked (f : Fields) : Fields := ⟨f.entries.filter fun e => !isMark e⟩

variable {operator opposite : String} {e : String × Operand} {es : List (String × Operand)}

/-- The marks are all that is left out of an object. -/
theorem takeWhile_append_filter_dropWhile (es : List (String × Operand)) :
    (es.takeWhile fun e => !isMark e) ++
        ((es.dropWhile fun e => !isMark e).filter fun e => !isMark e) =
      es.filter fun e => !isMark e := by
  have hbefore : (es.takeWhile fun e => !isMark e).filter (fun e => !isMark e) =
      es.takeWhile fun e => !isMark e :=
    List.filter_eq_self.2 fun e he => List.all_eq_true.1 List.all_takeWhile e he
  conv => rhs; rw [← List.takeWhile_append_dropWhile (p := fun e => !isMark e) (l := es)]
  rw [List.filter_append, hbefore]

theorem tests_cons_of_mark (h : isMark e = true) :
    tests operator opposite (e :: es) = (es.filter fun e => !isMark e).map (testOf opposite) := by
  simp [tests, h]

theorem tests_cons_of_not_mark (h : isMark e = false) :
    tests operator opposite (e :: es) = testOf operator e :: tests operator opposite es := by
  simp [tests, h]

/-- Every test is under one of the two operators. -/
theorem operator_of_mem_tests {t : FieldTest} (h : t ∈ tests operator opposite es) :
    t.operator = operator ∨ t.operator = opposite := by
  rcases List.mem_append.1 h with h | h
  · obtain ⟨e, -, rfl⟩ := List.mem_map.1 h
    exact .inl rfl
  · obtain ⟨e, -, rfl⟩ := List.mem_map.1 h
    exact .inr rfl

/-- Under an operator that is its own opposite marks make no difference. -/
theorem tests_self (operator : String) (es : List (String × Operand)) :
    tests operator operator es = (es.filter fun e => !isMark e).map (testOf operator) := by
  rw [tests, ← List.map_append, takeWhile_append_filter_dropWhile]

theorem tests_unmarked (operator opposite : String) (f : Fields) :
    tests operator opposite f.unmarked.entries =
      (f.entries.filter fun e => !isMark e).map (testOf operator) := by
  have hplain : ∀ e ∈ f.entries.filter (fun e => !isMark e), (!isMark e) = true :=
    fun e he => (List.mem_filter.1 he).2
  rw [tests, unmarked, List.takeWhile_eq_self_iff.2 hplain, List.dropWhile_eq_nil_iff.2 hplain]
  simp

/-- The same fields with the same operands are tested as without the marks, in the same order, each
under one of the two operators. -/
theorem tests_forall₂_unmarked (operator opposite : String) (es : List (String × Operand)) :
    List.Forall₂ (fun s t : FieldTest => s.field = t.field ∧ s.operand = t.operand ∧
        (s.operator = operator ∨ s.operator = opposite) ∧ t.operator = operator)
      (tests operator opposite es) ((es.filter fun e => !isMark e).map (testOf operator)) := by
  rw [← takeWhile_append_filter_dropWhile, List.map_append, tests]
  refine List.rel_append ?_ ?_
  · rw [List.forall₂_map_left_iff, List.forall₂_map_right_iff]
    exact List.forall₂_same.2 fun e _ => ⟨rfl, rfl, .inl rfl, rfl⟩
  · rw [List.forall₂_map_left_iff, List.forall₂_map_right_iff]
    exact List.forall₂_same.2 fun e _ => ⟨rfl, rfl, .inr rfl, rfl⟩

end Fields

/-! ## The comparisons of an object -/

namespace Condition

/-- An object is compared test by test. -/
theorem compareFields_eq (operator : String) (modifier : Option String)
    (es : List (String × Operand)) :
    compareFields operator modifier es = (do
      let texts ← (Fields.tests operator (negated operator) es).mapM (FieldTest.texts · modifier)
      return texts.flatten) := by
  induction es generalizing operator with
  | nil => rfl
  | cons e es ih =>
    rw [compareFields]
    cases hmark : Fields.isMark e with
    | true =>
      have hcondition : (decide (e.1 = Fields.negationKey) && e.2.isTrue) = true := hmark
      rw [if_pos hcondition, ih, negated_negated, Fields.tests_self,
        Fields.tests_cons_of_mark hmark]
    | false =>
      have hcondition : ¬ (decide (e.1 = Fields.negationKey) && e.2.isTrue) = true := by
        rw [Bool.not_eq_true]
        exact hmark
      rw [if_neg hcondition, ih, Fields.tests_cons_of_not_mark hmark, List.mapM_cons]
      simp only [bind_assoc, pure_bind, List.flatten_cons]
      rfl

end Condition

/-- The group of what the fields are tested for. -/
def Fields.groupText (f : Fields) (operator opposite : String) (modifier : Option String) :
    Render (Option String) := do
  let texts ← (tests operator opposite f.entries).mapM (FieldTest.texts · modifier)
  return Condition.joined .and texts.flatten

namespace Condition

theorem objectText_eq (operator : String) (modifier : Option String) (f : Fields) :
    objectText operator modifier f = f.groupText operator (negated operator) modifier := by
  rw [objectText, compareFields_eq, Fields.groupText]
  simp only [bind_assoc, pure_bind]

/-- An object adds the group of its tests. -/
theorem text_fields (f : Fields) (operator modifier : Option String) :
    text (.fields f) none operator modifier =
      f.groupText (operator.getD "=") (negated (operator.getD "=")) modifier := by
  rw [← objectText_eq]
  funext b
  rw [text, partsWith, objectText, bind_assoc, bind_assoc]
  have hfollows := compareFields_follows (operator.getD "=") modifier f.entries b
  rcases hcompare : compareFields (operator.getD "=") modifier f.entries b with ⟨w | texts, c⟩
  · rw [bind_of_error hcompare, bind_of_error hcompare]
  · rw [bind_of_ok hcompare, bind_of_ok hcompare, pure_bind, pure_bind]
    rw [hcompare] at hfollows
    rcases hm : (Fields.comparisons (operator.getD "=") modifier f.entries).mapM Comparison.text
      b.lastId with _ | ⟨texts', n⟩
    · rw [hm] at hfollows
      exact hfollows.elim
    · rw [hm] at hfollows
      rw [combined_joined hfollows.2.2]

end Condition
end SqlBuilder
