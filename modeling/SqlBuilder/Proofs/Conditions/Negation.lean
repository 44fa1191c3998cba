import Mathlib.Data.List.ReduceOption
import SqlBuilder.Proofs.Conditions.Beside
import SqlBuilder.Proofs.Conditions.Tests
import SqlBuilder.Proofs.Lockstep

/-!
# How far a negation reaches

A negation mark concerns the fields behind it in its own object. What an object adds to the
conditions is the group of its tests (`Condition.text_fields`), and a list adds what its leaves add,
at whatever depth they stand, each under the operator of the call (`Condition.text_leaves`).

That a mark concerns nothing else is a statement about two runs, one with the marks of an object and
one without. Marks draw no number and make no operand acceptable or not, for an operator and its
opposite agree on whether lists of values are tested for membership. So the two runs fail alike or
leave the same state behind, and differ in the text of that object alone
(`Condition.leafTexts_around`). The drafts they leave differ in one condition, which no later call
looks at (`Call.runAll_beside`).
-/

namespace SqlBuilder

/-! ## Lists -/

namespace Condition

variable {Q : Type}

mutual

/-- The conditions in a list that are not lists themselves, from left to right. -/
def leaves : Condition Q → List (Condition Q)
  | raw sql => [raw sql]
  | list items => leavesOfItems items
  | fields f => [fields f]
  | query q => [query q]
  | value v => [value v]

def leavesOfItems : List (Condition Q) → List (Condition Q)
  | [] => []
  | c :: cs => leaves c ++ leavesOfItems cs

end

/-- What a leaf adds to the list it stands in. -/
def leafText (operator opposite : String) (modifier : Option String) :
    Condition Query → Render (Option String)
  | raw sql => return some sql
  | fields f => f.groupText operator opposite modifier
  | query q => do return combined (← q.embedGroup)
  | value v => throw (.misfit (.condition v.kind))
  | list _ => return none

theorem reduceOption_singleton {α : Type} (o : Option α) : [o].reduceOption = o.toList := by
  cases o with
  | none => rfl
  | some _ => rfl

mutual

/-- A list within a list adds what its leaves add. -/
theorem parts_eq (operator : String) (modifier : Option String) :
    (c : Condition Query) → parts operator modifier c = (do
      let texts ← c.leaves.mapM (leafText operator (negated operator) modifier)
      return texts.reduceOption)
  | raw _ => rfl
  | list items => partsOfItems_eq operator modifier items
  | fields f => by
    rw [parts, objectText_eq, leaves, List.mapM_cons, List.mapM_nil]
    simp only [leafText, bind_assoc, pure_bind, reduceOption_singleton]
  | query q => by
    rw [parts, leaves, List.mapM_cons, List.mapM_nil]
    simp only [leafText, bind_assoc, pure_bind, reduceOption_singleton]
  | value _ => rfl

theorem partsOfItems_eq (operator : String) (modifier : Option String) :
    (cs : List (Condition Query)) → partsOfItems operator modifier cs = (do
      let texts ← (leavesOfItems cs).mapM (leafText operator (negated operator) modifier)
      return texts.reduceOption)
  | [] => rfl
  | c :: cs => by
    rw [partsOfItems, parts_eq operator modifier c, partsOfItems_eq operator modifier cs,
      leavesOfItems, List.mapM_append]
    simp only [bind_assoc, pure_bind, List.reduceOption_append]

end

/-- A condition adds what its leaves add, each under the operator of the call, as one group of
alternatives or under AND. -/
theorem text_leaves {c : Condition Query} (h : ∀ q, c ≠ query q) (operator modifier : Option String) :
    text c none operator modifier = (do
      let texts ← c.leaves.mapM
        (leafText (operator.getD "=") (negated (operator.getD "=")) modifier)
      return combined texts.reduceOption) := by
  have hparts : partsWith (operator.getD "=") modifier c none =
      parts (operator.getD "=") modifier c := by
    cases c with
    | query q => exact absurd rfl (h q)
    | raw _ | list _ | fields _ | value _ => rfl
  rw [text, hparts, parts_eq]
  simp only [bind_assoc, pure_bind]

/-! ## With and without marks -/

/-- A computation run twice from the same state. -/
theorem abreast_self {α : Type} (r : Render α) : Abreast Eq Eq r r := by
  rintro b _ rfl
  exact ⟨outcomes_eq.2 rfl, rfl⟩

section Marks

variable {operator operator' : String}

mutual

/-- Under operators that agree on whether lists are tested for membership, the same numbers are
drawn and the same operands refused. -/
theorem compare_abreast (h : (membership? operator).isSome = (membership? operator').isSome)
    (modifier : Option String) (field : String) : (v : Operand) →
    Abreast Eq (fun _ _ => True) (compare operator modifier field v)
      (compare operator' modifier field v)
  | .list items => by
    unfold compare
    cases hkeyword : membership? operator with
    | some keyword =>
      cases hkeyword' : membership? operator' with
      | some keyword' => exact (abreast_self _).map fun _ _ _ => trivial
      | none => simp [hkeyword, hkeyword'] at h
    | none =>
      cases hkeyword' : membership? operator' with
      | some keyword' => simp [hkeyword, hkeyword'] at h
      | none => exact compareEach_abreast h modifier field items
  | .value _ | .data _ _ | .raw _ | .object _ => (abreast_self _).map fun _ _ _ => trivial

theorem compareEach_abreast (h : (membership? operator).isSome = (membership? operator').isSome)
    (modifier : Option String) (field : String) : (vs : List Operand) →
    Abreast Eq (fun _ _ => True) (compareEach operator modifier field vs)
      (compareEach operator' modifier field vs)
  | [] => .pure trivial
  | v :: vs => (compare_abreast h modifier field v).bind fun _ _ _ =>
      (compareEach_abreast h modifier field vs).map fun _ _ _ => trivial

end

/-- Without its marks an object draws the same numbers and is refused alike. -/
theorem groupText_abreast (h : (membership? operator).isSome = (membership? operator').isSome)
    (modifier : Option String) (f : Fields) :
    Abreast Eq (fun _ _ => True) (f.groupText operator operator' modifier)
      (f.unmarked.groupText operator operator' modifier) := by
  have hsame (s t : FieldTest) (hst : s.field = t.field ∧ s.operand = t.operand ∧
      (s.operator = operator ∨ s.operator = operator') ∧ t.operator = operator) :
      Abreast Eq (fun _ _ => True) (s.texts modifier) (t.texts modifier) := by
    obtain ⟨hfield, hoperand, hs, ht⟩ := hst
    rw [FieldTest.texts, FieldTest.texts, hfield, hoperand, ht]
    rcases hs with hs | hs
    · rw [hs]
      exact compare_abreast rfl modifier t.field t.operand
    · rw [hs]
      exact compare_abreast h.symm modifier t.field t.operand
  have hpairs := (Fields.tests_forall₂_unmarked operator operator' f.entries).imp hsame
  rw [← Fields.tests_unmarked operator operator'] at hpairs
  exact (Abreast.mapM hpairs).map fun _ _ _ => trivial

end Marks

end Condition

/-- Lists that differ in one place at most. -/
inductive DifferAt {α : Type} : Nat → List α → List α → Prop
  | here (a b : α) (rest : List α) : DifferAt 0 (a :: rest) (b :: rest)
  | there {n : Nat} {as bs : List α} (a : α) (h : DifferAt n as bs) :
    DifferAt (n + 1) (a :: as) (a :: bs)

namespace Condition

/-- The marks of an object show in the text of that object alone. -/
theorem leafTexts_around (operator : String) (modifier : Option String)
    (before after : List (Condition Query)) (f : Fields) :
    Abreast Eq (DifferAt before.length)
      ((before ++ .fields f :: after).mapM (leafText operator (negated operator) modifier))
      ((before ++ .fields f.unmarked :: after).mapM
        (leafText operator (negated operator) modifier)) := by
  induction before with
  | nil =>
    have hmarks := groupText_abreast (isSome_membership_negated operator).symm modifier f
    rw [List.nil_append, List.nil_append, List.mapM_cons, List.mapM_cons]
    refine hmarks.bind fun text text' _ => (abreast_self _).bind fun rest _ hrest => .pure ?_
    rw [← hrest]
    exact .here text text' rest
  | cons c before ih =>
    rw [List.cons_append, List.cons_append, List.mapM_cons, List.mapM_cons]
    refine (abreast_self _).bind fun text _ htext => ih.bind fun _ _ hrest => .pure ?_
    rw [← htext]
    exact .there text hrest

/-- With the marks of one object or without them, a condition draws the same numbers and is refused
alike. -/
theorem text_abreast {c c' : Condition Query} {before after : List (Condition Query)} {f : Fields}
    (h : c.leaves = before ++ .fields f :: after)
    (h' : c'.leaves = before ++ .fields f.unmarked :: after) (operator modifier : Option String) :
    Abreast Eq (fun _ _ => True) (text c none operator modifier) (text c' none operator modifier) := by
  have hne {c : Condition Query} {g : Fields} (h : c.leaves = before ++ .fields g :: after) :
      ∀ q, c ≠ query q := by
    rintro q rfl
    have hmem : fields g ∈ [query q] := by
      rw [show [query q] = _ from h]
      simp
    cases List.mem_singleton.1 hmem
  rw [text_leaves (hne h), text_leaves (hne h'), h, h']
  exact (leafTexts_around (operator.getD "=") modifier before after f).map fun _ _ _ => trivial

end Condition

/-! ## Calls -/

namespace Call

/-- Texts written in lockstep are all that two drafts differ in afterwards. -/
theorem adding_beside {r r' : Render (Option String)} (h : Abreast Eq (fun _ _ => True) r r')
    (d : Draft) :
    (adding r d).1 = (adding r' d).1 ∧
      (adding r d).2.Beside (adding r d).2.query.conditions (adding r' d).2.query.conditions
        (adding r' d).2 := by
  obtain ⟨hresult, hstate⟩ := h (rfl : d.binder = d.binder)
  rw [adding_apply, adding_apply]
  rcases hr : r d.binder with ⟨a, b⟩
  rcases hr' : r' d.binder with ⟨a', b'⟩
  rw [hr, hr'] at hresult hstate
  obtain rfl : b = b' := hstate
  cases hresult with
  | error f => exact ⟨rfl, .cleared _⟩
  | @ok text text' _ =>
    refine ⟨rfl, ?_⟩
    have hadded : Draft.Beside (d.query.conditions ++ text.toList)
        (d.query.conditions ++ text'.toList) _ _ := .added (d.withBinder b) []
    rwa [List.append_nil, List.append_nil] at hadded

/-- **The reach of a negation.** Under any operator there is one opposite operator such that

* an object adds the group of its tests, those before the first mark under the operator and those
  behind it under the opposite one;
* in a list, at whatever depth, every object adds its own such group;
* lists of values are tested with IN under the one operator of equality, and with NOT IN under the
  other;
* nothing but the true value under the key is a mark;
* with or without the marks of one object, every other element of the list adds the same text, the
  call has the same answer, and so has every call after it, which adds the same conditions. -/
theorem negation_within_object (operator modifier : Option String) :
    ∃ opposite, Condition.Opposite (operator.getD "=") opposite ∧
      (∀ f : Fields, (addCondition (.fields f) none operator modifier).run =
        adding (f.groupText (operator.getD "=") opposite modifier)) ∧
      (∀ items, (addCondition (.list items) none operator modifier).run = adding (do
        let texts ← (Condition.leavesOfItems items).mapM
          (Condition.leafText (operator.getD "=") opposite modifier)
        return Condition.combined texts.reduceOption)) ∧
      (∀ (sign keyword : String), (sign, keyword) ∈ [("=", "IN"), ("!=", "NOT IN")] →
        ∀ field vs, FieldTest.texts ⟨field, sign, .list vs⟩ modifier = (do
          let texts ← vs.mapM fun v => Binder.bindOperand v modifier
          return [field ++ " " ++ keyword ++ " (" ++ ",".intercalate texts ++ ")"])) ∧
      (∀ e, Fields.isMark e = true ↔ e = ("not", .value (.bool true))) ∧
      ∀ (f : Fields) (before after : List (Condition Query)) (c c' : Condition Query),
        c.leaves = before ++ .fields f :: after →
        c'.leaves = before ++ .fields f.unmarked :: after →
          Abreast Eq (DifferAt before.length)
            (c.leaves.mapM (Condition.leafText (operator.getD "=") opposite modifier))
            (c'.leaves.mapM (Condition.leafText (operator.getD "=") opposite modifier)) ∧
          ∀ (d e e' : Draft) (answer answer' : Except Failure (Option String)),
            (addCondition c none operator modifier).run d = (answer, e) →
            (addCondition c' none operator modifier).run d = (answer', e') →
              answer = answer' ∧ ∀ later, (runAll later e).1 = (runAll later e').1 ∧
                (runAll later e).2.Beside e.query.conditions e'.query.conditions
                  (runAll later e').2 := by
  refine ⟨_, Condition.opposite_negated _, fun f => ?_, fun items => ?_, ?_, Fields.isMark_iff, ?_⟩
  · rw [run_addCondition, Condition.text_fields]
  · rw [run_addCondition, Condition.text_leaves (by simp)]
    rfl
  · intro sign keyword h field vs
    have hkeyword : Condition.membership? sign = some keyword := by
      simp only [List.mem_cons, List.not_mem_nil, or_false, Prod.mk.injEq] at h
      rcases h with ⟨rfl, rfl⟩ | ⟨rfl, rfl⟩
      · rfl
      · rfl
    rw [FieldTest.texts, Condition.compare, hkeyword]
  · intro f before after c c' h h'
    constructor
    · rw [h, h']
      exact Condition.leafTexts_around _ modifier before after f
    · intro d e e' answer answer' he he'
      obtain ⟨hanswer, hbeside⟩ := adding_beside (Condition.text_abreast h h' operator modifier) d
      rw [← run_addCondition, ← run_addCondition, he, he'] at hanswer hbeside
      exact ⟨hanswer, fun later => runAll_beside later hbeside⟩

/-- Someone of an age who has none of two names. -/
def agedUnnamed : Fields :=
  ⟨[("age", .value (.int 40)), ("not", .value (.bool true)),
    ("name", .list [.value (.text "bob"), .value (.text "jane")])]⟩

/-- A list with the object in it, and another object behind it. -/
def besideRetired (f : Fields) : Call Query :=
  whereClause (.list [.list [.fields f], .fields ⟨[("age", .value (.int 70))]⟩])

theorem negation_within_object_list :
    ((besideRetired agedUnnamed).run ⟨{}, 0, []⟩).2.query.conditions =
        ["((age = {{binding1}} AND name NOT IN ({{binding2}},{{binding3}})) OR age = {{binding4}})"] ∧
      ((besideRetired agedUnnamed.unmarked).run ⟨{}, 0, []⟩).2.query.conditions =
        ["((age = {{binding1}} AND name IN ({{binding2}},{{binding3}})) OR age = {{binding4}})"] ∧
      (runAll [besideRetired agedUnnamed] ((besideRetired agedUnnamed).run ⟨{}, 0, []⟩).2).1 =
        (runAll [besideRetired agedUnnamed]
          ((besideRetired agedUnnamed.unmarked).run ⟨{}, 0, []⟩).2).1 := by
  refine ⟨by decide +kernel, by decide +kernel, ?_⟩
  obtain ⟨opposite, -, -, -, -, -, hreach⟩ := negation_within_object none none
  obtain ⟨-, hlater⟩ := hreach agedUnnamed [] [.fields ⟨[("age", .value (.int 70))]⟩]
    (.list [.list [.fields agedUnnamed], .fields ⟨[("age", .value (.int 70))]⟩])
    (.list [.list [.fields agedUnnamed.unmarked], .fields ⟨[("age", .value (.int 70))]⟩]) rfl rfl
  exact ((hlater ⟨{}, 0, []⟩ _ _ _ _ rfl rfl).2 [besideRetired agedUnnamed]).1

end Call
end SqlBuilder
