import SqlBuilder.Proofs.Conditions.OneField

/-!
# What a negated lookup excludes

A field is looked up under an operator, and the lookup is negated under the opposite one. Both write
the same tests with the same placeholders, but for the sign between the field and what it is tested
against (`Condition.compare_each`, `Condition.compare_membership`), so that one by one they are true
in opposite cases.

For the clauses that come of them this is enough only where there is one test. Under `=` and `!=`
there always is one, for a list of values is tested for membership. Under LIKE and NOT LIKE every
value is compared on its own, and the comparisons are alternatives under either operator. The
opposite of an alternative is not an alternative: NOT LIKE is true as soon as one of the values is
not matched, also where another one is (`Call.lookups_negated`, `Call.liked_and_not_liked`).
-/

namespace SqlBuilder

/-- A single value, with a tag or without one. -/
def Operand.isSingle : Operand → Bool
  | value _ | data _ _ => true
  | list _ | raw _ | object _ => false

/-- What a test for equality binds: the elements of a list, or the operand alone. -/
def Operand.members : Operand → List Operand
  | list items => items
  | v => [v]

/-- Single values are bound, and nothing else is. -/
theorem Binder.bindOperands_isOk (vs : List Operand) (modifier : Option String) (b : Binder) :
    ((vs.mapM fun v => bindOperand v modifier) b).1.isOk = vs.all Operand.isSingle := by
  induction vs generalizing b with
  | nil => rfl
  | cons v vs ih =>
    have hv : ((bindOperand v modifier) b).1.isOk = v.isSingle := by cases v <;> rfl
    rw [List.mapM_cons, List.all_cons]
    rcases hbind : bindOperand v modifier b with ⟨f | x, c⟩
    · rw [hbind] at hv
      rw [bind_of_error hbind, ← hv]
      rfl
    · have hvs := ih c
      rw [hbind] at hv
      rw [bind_of_ok hbind, ← hv, ← hvs]
      rcases hrest : (vs.mapM fun v => bindOperand v modifier) c with ⟨f | xs, e⟩
      · rw [bind_of_error hrest]
        rfl
      · rw [bind_of_ok hrest]
        rfl

/-! ## Verdicts -/

namespace Connective

/-- The opposites of alternatives, as alternatives, are the opposite of them all together. -/
theorem verdict_or_map_not (bs : List Bool) :
    or.verdict (bs.map not) = (and.verdict bs).map not := by
  cases bs with
  | nil => rfl
  | cons b bs =>
    rw [verdict_of_ne_nil (List.cons_ne_nil _ _), List.map_cons,
      verdict_of_ne_nil (List.cons_ne_nil _ _), Option.map_some, holds, holds,
      List.not_all_eq_any_not, ← List.map_cons, List.any_map]
    rfl

/-- Repeating a condition changes nothing under either connective. -/
theorem verdict_replicate (connective : Connective) (n : Nat) (b : Bool) :
    connective.verdict (List.replicate (n + 1) b) = some b := by
  rw [List.replicate_succ, verdict_of_ne_nil (List.cons_ne_nil _ _)]
  cases connective <;> cases b <;> simp [holds]

end Connective

namespace Condition

/-! ## Tests of a field -/

/-- The test of a field against a text. -/
def test (field sign x : String) : String := field ++ " " ++ sign ++ " " ++ x

theorem toList_test (field sign x : String) :
    (test field sign x).toList = field.toList ++ ' ' :: (sign.toList ++ ' ' :: x.toList) := by
  simp [test]

theorem test_inj {field sign x y : String} : test field sign x = test field sign y ↔ x = y := by
  rw [← String.toList_inj, toList_test, toList_test, List.append_cancel_left_eq,
    List.cons.injEq, List.append_cancel_left_eq, List.cons.injEq, String.toList_inj]
  simp

theorem leadingAnd_ne_test (field sign x : String) : Query.leadingAnd ≠ test field sign x :=
  (ne_leadingAnd (c := ' ') (by simp [toList_test]) (by decide)).symm

/-- The sign that an operator has before an operand. -/
def sign (operator : String) : Operand → String
  | .list _ => (membership? operator).getD operator
  | _ => operator

/-- The texts of the members of an operand, as a test for equality has them. -/
def tested : Operand → List String → String
  | .list _, xs => "(" ++ ",".intercalate xs ++ ")"
  | _, xs => ",".intercalate xs

/-- Under equality there is one test, whatever the operand. -/
theorem compare_membership {operator keyword : String} (h : membership? operator = some keyword)
    (modifier : Option String) (field : String) (v : Operand) :
    compare operator modifier field v = (do
      let xs ← v.members.mapM fun w => Binder.bindOperand w modifier
      return [test field (sign operator v) (tested v xs)]) := by
  cases v with
  | list items =>
    have htest (x : String) :
        field ++ " " ++ keyword ++ " (" ++ x ++ ")" = test field keyword ("(" ++ x ++ ")") :=
      String.toList_inj.1 (by simp [toList_test])
    unfold compare
    simp only [h, sign, Option.getD_some, tested, Operand.members, htest]
  | value _ | data _ _ | raw _ | object _ =>
    simp [compare, Operand.members, sign, tested, test]

mutual

/-- Under an operator without a membership test there is one test for each of the values. -/
theorem compare_each {operator : String} (h : membership? operator = none)
    (modifier : Option String) (field : String) : (v : Operand) →
    compare operator modifier field v = (do
      let xs ← v.singles.mapM fun w => Binder.bindOperand w modifier
      return xs.map (test field operator))
  | .list items => by
    unfold compare
    rw [h]
    exact compareEach_each h modifier field items
  | .value _ | .data _ _ | .raw _ | .object _ => by simp [compare, Operand.singles, test]

theorem compareEach_each {operator : String} (h : membership? operator = none)
    (modifier : Option String) (field : String) : (vs : List Operand) →
    compareEach operator modifier field vs = (do
      let xs ← (Operand.singlesOfItems vs).mapM fun w => Binder.bindOperand w modifier
      return xs.map (test field operator))
  | [] => rfl
  | v :: vs => by
    rw [compareEach, compare_each h modifier field v, compareEach_each h modifier field vs,
      Operand.singlesOfItems, List.mapM_append]
    simp

end

/-! ## Alternatives -/

/-- The spelling of tests of a field, one for each text, as alternatives. -/
def alternatives (field sign : String) (xs : List String) : List Lexeme :=
  (Formula.flat (xs.map (test field sign))).lexemes

theorem combined_eq_written (field sign : String) (xs : List String) :
    combined (xs.map (test field sign)) = Lexeme.written (alternatives field sign xs) :=
  (Formula.print_flat _).symm

theorem flat_tests (field sign : String) (xs : List String) :
    Formula.flat (xs.map (test field sign)) =
      .group .or ((xs.map (test field sign)).map Formula.atom) := by
  refine if_neg fun hhead => ?_
  obtain ⟨x, -, hx⟩ := List.mem_map.1 (List.mem_of_mem_head? hhead)
  exact leadingAnd_ne_test field sign x hx.symm

theorem combined_singleton (field sign x : String) :
    combined [test field sign x] = Lexeme.written [.atom (test field sign x)] := by
  have h := combined_eq_written field sign [x]
  rw [alternatives, flat_tests] at h
  exact h

theorem filterMap_alternatives (field sign : String) (xs : List String) :
    (alternatives field sign xs).filterMap Lexeme.atom? = xs.map (test field sign) := by
  rw [alternatives, Formula.filterMap_lexemes, flat_tests, Formula.atoms,
    Formula.atomsOfMembers_map_atom]

theorem read_alternatives (V : String → Bool) (field sign : String) (xs : List String) :
    read V (alternatives field sign xs) =
      Connective.or.verdict (xs.map fun x => V (test field sign x)) := by
  rw [alternatives, Formula.read_lexemes, flat_tests, Formula.value, Formula.values_map_atom,
    List.map_map]
  rfl

/-! ## Contrary signs -/

/-- A sign and the one that negates it. -/
inductive Contrary : String → String → Prop
  | equal : Contrary "=" "!="
  | member : Contrary "IN" "NOT IN"
  | like : Contrary "LIKE" "NOT LIKE"

/-- Tests of the field under opposite signs have opposite truth values. -/
def Denies (field : String) (V : String → Bool) : Prop :=
  ∀ {sign sign' : String}, Contrary sign sign' → ∀ x,
    V (test field sign' x) = !V (test field sign x)

/-- The truth values that come of those of the positive tests. -/
def denying (field : String) (W : String → Bool) (sql : String) : Bool :=
  match sql.toList.drop (field.length + 1) with
  | '!' :: positive | 'N' :: 'O' :: 'T' :: ' ' :: positive =>
    !W (field ++ " " ++ .ofList positive)
  | _ => W sql

theorem drop_toList_test (field sign x : String) :
    (test field sign x).toList.drop (field.length + 1) = sign.toList ++ ' ' :: x.toList := by
  rw [toList_test, ← String.length_toList, List.drop_length_add_append]
  rfl

theorem denying_test {field sign sign' : String} (h : Contrary sign sign') (W : String → Bool)
    (x : String) :
    denying field W (test field sign x) = W (test field sign x) ∧
      denying field W (test field sign' x) = !W (test field sign x) := by
  have hpositive : field ++ " " ++ .ofList (sign.toList ++ ' ' :: x.toList) = test field sign x :=
    String.toList_inj.1 (by simp [toList_test])
  constructor
  · rw [denying, drop_toList_test]
    cases h <;> rfl
  · rw [denying, drop_toList_test, ← hpositive]
    cases h <;> rfl

theorem denies_denying (field : String) (W : String → Bool) : Denies field (denying field W) :=
  fun h x => by rw [(denying_test h W x).1, (denying_test h W x).2]

/-- One spelling is true just where the other one is false. -/
def Complementary (field : String) (ls ls' : List Lexeme) : Prop :=
  ∀ V, Denies field V → ∃ b, read V ls = some b ∧ read V ls' = some (!b)

theorem read_alternatives_contrary {field sign sign' : String} (h : Contrary sign sign')
    {V : String → Bool} (hV : Denies field V) (xs : List String) :
    read V (alternatives field sign' xs) =
      (Connective.and.verdict (xs.map fun x => V (test field sign x))).map not := by
  rw [read_alternatives, ← Connective.verdict_or_map_not, List.map_map]
  exact congrArg _ (List.map_congr_left fun x _ => hV h x)

/-- Alternatives under opposite signs are complementary just if they are all the same one. -/
theorem complementary_alternatives_iff {field sign sign' : String} (h : Contrary sign sign')
    (xs : List String) :
    Complementary field (alternatives field sign xs) (alternatives field sign' xs) ↔
      xs ≠ [] ∧ ∀ x ∈ xs, ∀ y ∈ xs, x = y := by
  constructor
  · intro hc
    refine ⟨?_, fun x hx y hy => Classical.byContradiction fun hxy => ?_⟩
    · rintro rfl
      obtain ⟨b, hread, -⟩ := hc _ (denies_denying field fun _ => true)
      cases (read_alternatives _ field sign []).symm.trans hread
    · -- Where of two tests only the first one is true, so are both spellings.
      let V := denying field fun sql => sql = test field sign x
      have hx' : V (test field sign x) = true :=
        (denying_test h _ x).1.trans (decide_eq_true rfl)
      have hy' : V (test field sign y) = false :=
        (denying_test h _ y).1.trans (decide_eq_false fun heq => hxy (test_inj.1 heq).symm)
      have hne : xs.map (fun x => V (test field sign x)) ≠ [] :=
        fun hnil => List.ne_nil_of_mem hx (List.map_eq_nil_iff.1 hnil)
      have hor : Connective.or.holds (xs.map fun x => V (test field sign x)) = true :=
        List.any_eq_true.2 ⟨true, List.mem_map.2 ⟨x, hx, hx'⟩, rfl⟩
      have hand : Connective.and.holds (xs.map fun x => V (test field sign x)) = false :=
        List.all_eq_false.2 ⟨false, List.mem_map.2 ⟨y, hy, hy'⟩, Bool.false_ne_true⟩
      have hV : Denies field V := denies_denying field _
      obtain ⟨b, hread, hread'⟩ := hc V hV
      rw [read_alternatives, Connective.verdict_of_ne_nil hne, hor] at hread
      rw [read_alternatives_contrary h hV, Connective.verdict_of_ne_nil hne, hand] at hread'
      cases hread
      cases hread'
  · rintro ⟨hne, hsame⟩ V hV
    obtain ⟨x, xs, rfl⟩ := List.exists_cons_of_ne_nil hne
    have htests : (x :: xs).map (fun x => V (test field sign x)) =
        List.replicate (xs.length + 1) (V (test field sign x)) := by
      refine List.eq_replicate_iff.2 ⟨by simp, fun b hb => ?_⟩
      obtain ⟨y, hy, rfl⟩ := List.mem_map.1 hb
      rw [hsame x List.mem_cons_self y hy]
    refine ⟨V (test field sign x), ?_, ?_⟩
    · rw [read_alternatives, htests, Connective.verdict_replicate]
    · rw [read_alternatives_contrary h hV, htests, Connective.verdict_replicate, Option.map_some]

end Condition

namespace Call

/-! ## Lookups -/

/-- Both calls are refused for a shape they have no use for, and leave the same draft behind. -/
def BothRefused (c c' : Call Query) (d : Draft) : Prop :=
  ∃ w w' e, c.run d = (.error (.misfit w), e) ∧ c'.run d = (.error (.misfit w'), e)

/-- Both calls bind the texts for the operands, and each adds the clause of its spelling. -/
def BothAdd (c c' : Call Query) (d : Draft) (vs : List Operand) (xs : List String)
    (ls ls' : List Lexeme) : Prop :=
  ∃ b, (vs.mapM fun v => Binder.bindOperand v none) d.binder = (.ok xs, b) ∧
    c.run d = (.ok none, (d.withBinder b).withClause (Lexeme.written ls)) ∧
    c'.run d = (.ok none, (d.withBinder b).withClause (Lexeme.written ls'))

/-- Lookups that write the same operands are refused together, or add their clauses together. -/
theorem lookups_cases {field : String} {v : Operand} (operator operator' : Option String)
    {vs : List Operand} {texts texts' : List String → List String}
    {spelled spelled' : List String → List Lexeme}
    (h : Condition.compare (operator.getD "=") none field v = (do
      let xs ← vs.mapM fun w => Binder.bindOperand w none
      return texts xs))
    (h' : Condition.compare (operator'.getD "=") none field v = (do
      let xs ← vs.mapM fun w => Binder.bindOperand w none
      return texts' xs))
    (hs : ∀ xs, Condition.combined (texts xs) = Lexeme.written (spelled xs))
    (hs' : ∀ xs, Condition.combined (texts' xs) = Lexeme.written (spelled' xs)) (d : Draft) :
    (vs.all Operand.isSingle = false ∧
        BothRefused (addCondition (.raw field) (some v) operator none)
          (addCondition (.raw field) (some v) operator' none) d) ∨
      vs.all Operand.isSingle = true ∧ ∃ xs,
        BothAdd (addCondition (.raw field) (some v) operator none)
          (addCondition (.raw field) (some v) operator' none) d vs xs (spelled xs)
          (spelled' xs) := by
  have hok := Binder.bindOperands_isOk vs none d.binder
  unfold BothRefused BothAdd
  rw [run_addCondition, run_addCondition, Condition.text_named, Condition.text_named, h, h',
    adding_apply, adding_apply]
  rcases (Binder.bindOperands_akin vs none).cases d.binder with
    ⟨w, -, b, hbind, -⟩ | ⟨xs, -, b, hbind, -, -⟩
  · rw [hbind] at hok
    rw [bind_assoc, bind_assoc, bind_of_error hbind, bind_of_error hbind]
    exact .inl ⟨hok.symm, w, w, d.withBinder b, rfl, rfl⟩
  · rw [hbind] at hok
    rw [bind_assoc, bind_assoc, bind_of_ok hbind, bind_of_ok hbind]
    refine .inr ⟨hok.symm, xs, b, hbind, ?_, ?_⟩
    · rw [← hs]
      rfl
    · rw [← hs']
      rfl

/-- **What a negated lookup excludes.** A field is looked up under an operator and under the
opposite one. Either both calls are refused, for an operand that is not made of single values as far
as lists are accepted, or both bind the same values and add clauses of the same tests under opposite
signs.

Under `=` and `!=` there is one test, and the clauses are complementary. Under LIKE and NOT LIKE
there is one for every single value, at any depth. The one clause is true if one of the values is
matched, the other one unless all of them are, so that the clauses are complementary just if there
is a test and no other. -/
theorem lookups_negated (field : String) (v : Operand) (d : Draft) :
    ((v.members.all Operand.isSingle = false ∧
        BothRefused (whereEq (.raw field) v) (whereNot (.raw field) v) d) ∨
      v.members.all Operand.isSingle = true ∧ ∃ xs ls ls',
        BothAdd (whereEq (.raw field) v) (whereNot (.raw field) v) d v.members xs ls ls' ∧
        ls = [.atom (Condition.test field (Condition.sign "=" v) (Condition.tested v xs))] ∧
        ls' = [.atom (Condition.test field (Condition.sign "!=" v) (Condition.tested v xs))] ∧
        Condition.Complementary field ls ls') ∧
    ((v.singles.all Operand.isSingle = false ∧
        BothRefused (whereLike (.raw field) v) (whereNotLike (.raw field) v) d) ∨
      v.singles.all Operand.isSingle = true ∧ ∃ xs ls ls',
        BothAdd (whereLike (.raw field) v) (whereNotLike (.raw field) v) d v.singles xs ls ls' ∧
        ls.filterMap Lexeme.atom? = xs.map (Condition.test field "LIKE") ∧
        ls'.filterMap Lexeme.atom? = xs.map (Condition.test field "NOT LIKE") ∧
        (∀ V, Condition.Denies field V →
          read V ls = Connective.or.verdict (xs.map fun x => V (Condition.test field "LIKE" x)) ∧
          read V ls' = (Connective.and.verdict
            (xs.map fun x => V (Condition.test field "LIKE" x))).map not) ∧
        (Condition.Complementary field ls ls' ↔ xs ≠ [] ∧ ∀ x ∈ xs, ∀ y ∈ xs, x = y)) := by
  constructor
  · have hcontrary : Condition.Contrary (Condition.sign "=" v) (Condition.sign "!=" v) := by
      cases v with
      | list _ => exact .member
      | value _ | data _ _ | raw _ | object _ => exact .equal
    have hequal : Condition.membership? "=" = some "IN" := rfl
    have hnot : Condition.membership? "!=" = some "NOT IN" := rfl
    rcases lookups_cases none (some "!=") (Condition.compare_membership hequal none field v)
        (Condition.compare_membership hnot none field v)
        (fun _ => Condition.combined_singleton _ _ _) (fun _ => Condition.combined_singleton _ _ _)
        d with hrefused | ⟨hall, xs, hadd⟩
    · exact .inl hrefused
    · refine .inr ⟨hall, xs, _, _, hadd, rfl, rfl, fun V hV => ?_⟩
      exact ⟨_, rfl, congrArg some (hV hcontrary _)⟩
  · rcases lookups_cases (some "LIKE") (some "NOT LIKE")
        (Condition.compare_each (by decide) none field v)
        (Condition.compare_each (by decide) none field v)
        (Condition.combined_eq_written field _) (Condition.combined_eq_written field _) d with
      hrefused | ⟨hall, xs, hadd⟩
    · exact .inl hrefused
    · refine .inr ⟨hall, xs, _, _, hadd, Condition.filterMap_alternatives _ _ _,
        Condition.filterMap_alternatives _ _ _, fun V hV => ⟨Condition.read_alternatives _ _ _ _,
          Condition.read_alternatives_contrary .like hV _⟩,
        Condition.complementary_alternatives_iff .like xs⟩

/-- A pattern in a list of its own. -/
def nestedPattern : Operand := .list [.list [.value (.text "bob%")]]

theorem lookups_negated_nestedPattern : ∃ ls ls',
    ((whereLike (.raw "name") nestedPattern).run ⟨{}, 0, []⟩).2.query.conditions =
        (Lexeme.written ls).toList ∧
      ((whereNotLike (.raw "name") nestedPattern).run ⟨{}, 0, []⟩).2.query.conditions =
        (Lexeme.written ls').toList ∧
      ls.filterMap Lexeme.atom? = ["name LIKE {{binding1}}"] ∧
      ls'.filterMap Lexeme.atom? = ["name NOT LIKE {{binding1}}"] ∧
      Condition.Complementary "name" ls ls' := by
  rcases (lookups_negated "name" nestedPattern ⟨{}, 0, []⟩).2 with
    ⟨hall, -⟩ | ⟨-, xs, ls, ls', ⟨b, hbind, hrun, hrun'⟩, hatoms, hatoms', -, hiff⟩
  · exact absurd hall (by decide)
  · obtain rfl : ["{{binding1}}"] = xs := Except.ok.inj (congrArg Prod.fst hbind)
    refine ⟨ls, ls', ?_, ?_, hatoms, hatoms', hiff.2 (by simp)⟩
    · rw [hrun]
      rfl
    · rw [hrun']
      rfl

/-- Two patterns for one name. -/
def twoPatterns : Operand := .list [.value (.text "bob%"), .value (.text "jane%")]

/-- What is like the first pattern only is found under LIKE and also under NOT LIKE. -/
theorem liked_and_not_liked : ∃ ls ls' V,
    ((whereLike (.raw "name") twoPatterns).run ⟨{}, 0, []⟩).2.query.conditions =
        (Lexeme.written ls).toList ∧
      ((whereNotLike (.raw "name") twoPatterns).run ⟨{}, 0, []⟩).2.query.conditions =
        (Lexeme.written ls').toList ∧
      Lexeme.written ls = some "(name LIKE {{binding1}} OR name LIKE {{binding2}})" ∧
      Lexeme.written ls' = some "(name NOT LIKE {{binding1}} OR name NOT LIKE {{binding2}})" ∧
      ls.filterMap Lexeme.atom? = ["name LIKE {{binding1}}", "name LIKE {{binding2}}"] ∧
      ls'.filterMap Lexeme.atom? = ["name NOT LIKE {{binding1}}", "name NOT LIKE {{binding2}}"] ∧
      Condition.Denies "name" V ∧ read V ls = some true ∧ read V ls' = some true := by
  let xs := ["{{binding1}}", "{{binding2}}"]
  refine ⟨Condition.alternatives "name" "LIKE" xs, Condition.alternatives "name" "NOT LIKE" xs,
    Condition.denying "name" fun sql => sql = "name LIKE {{binding1}}", ?_, ?_, ?_, ?_, ?_, ?_,
    Condition.denies_denying _ _, ?_, ?_⟩ <;> decide +kernel

end Call
end SqlBuilder
