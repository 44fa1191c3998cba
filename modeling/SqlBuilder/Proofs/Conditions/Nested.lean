import SqlBuilder.Proofs.Conditions.Formula
import SqlBuilder.Proofs.Merging.TakesOver

/-!
# Lists within lists

A list of conditions stands for alternatives, or for all of its conditions if the word AND leads
it. `Condition.nested` applies this at every level of a condition made of fragments and lists.

What becomes of such a condition is another formula: all its fragments are members of one group,
whatever lists they stood in, and the first of them decides on the connective (`Formula.flat`). The
two agree on conditions that are `Kept` (`Kept.flat`): where all lists are alternatives, where AND
leads a list of single conditions, and where a list has only one member that says anything.
Elsewhere they can differ. The word AND at the head of an inner list becomes a condition of its own,
and alternatives in a list under AND are lost.
-/

namespace SqlBuilder

/-! ## Verdicts -/

namespace Connective

variable {connective : Connective} {as bs cs ds : List Bool}

theorem verdict_eq_none_iff : connective.verdict bs = none ↔ bs = [] := by
  cases bs <;> simp [verdict]

theorem verdict_eq_iff : connective.verdict as = connective.verdict bs ↔
    (as = [] ↔ bs = []) ∧ connective.holds as = connective.holds bs := by
  cases as <;> cases bs <;> simp [verdict]

/-- Members may be put together before they are joined with others. -/
theorem verdict_append (h : connective.verdict as = connective.verdict bs)
    (h' : connective.verdict cs = connective.verdict ds) :
    connective.verdict (as ++ cs) = connective.verdict (bs ++ ds) := by
  rw [verdict_eq_iff] at h h' ⊢
  refine ⟨by rw [List.append_eq_nil_iff, List.append_eq_nil_iff, h.1, h'.1], ?_⟩
  obtain ⟨-, h⟩ := h
  obtain ⟨-, h'⟩ := h'
  cases connective <;> simp_all only [holds, List.all_append, List.any_append]

@[simp] theorem verdict_toList (v : Option Bool) : connective.verdict v.toList = v := by
  cases v <;> cases connective <;> simp [verdict, holds]

/-- For a single condition the connective does not matter. -/
theorem verdict_of_length_le_one (h : bs.length ≤ 1) (connective connective' : Connective) :
    connective.verdict bs = connective'.verdict bs := by
  match bs with
  | [] => rfl
  | [b] => cases connective <;> cases connective' <;> simp [verdict, holds]

end Connective

/-! ## Formulas of fragments -/

namespace Formula

variable {α : Type}

mutual

/-- Only a formula without atoms has no value. -/
theorem value_eq_none_iff {V : α → Bool} : {t : Formula α} → t.value V = none ↔ t.atoms = []
  | atom a => by simp [value, atoms]
  | group connective members => by
    rw [value, Connective.verdict_eq_none_iff, values_eq_nil_iff, atoms]

theorem values_eq_nil_iff {V : α → Bool} :
    {ts : List (Formula α)} → values V ts = [] ↔ atomsOfMembers ts = []
  | [] => by simp [values, atomsOfMembers]
  | t :: ts => by
    rw [values, atomsOfMembers, List.append_eq_nil_iff, List.append_eq_nil_iff,
      Option.toList_eq_nil_iff, value_eq_none_iff, values_eq_nil_iff]

end

/-- A member may be replaced by what it is worth under the connective. -/
theorem verdict_values_cons {connective : Connective} {V : α → Bool} {t : Formula α}
    {ts : List (Formula α)} {as bs : List Bool} (h : t.value V = connective.verdict as)
    (hs : connective.verdict (values V ts) = connective.verdict bs) :
    connective.verdict (values V (t :: ts)) = connective.verdict (as ++ bs) :=
  Connective.verdict_append ((Connective.verdict_toList _).trans h) hs

theorem values_append (V : α → Bool) (ts us : List (Formula α)) :
    values V (ts ++ us) = values V ts ++ values V us := by
  induction ts with
  | nil => rfl
  | cons t ts ih => rw [List.cons_append, values, values, ih, List.append_assoc]

theorem atomsOfMembers_append (ts us : List (Formula α)) :
    atomsOfMembers (ts ++ us) = atomsOfMembers ts ++ atomsOfMembers us := by
  induction ts with
  | nil => rfl
  | cons t ts ih => rw [List.cons_append, atomsOfMembers, atomsOfMembers, ih, List.append_assoc]

@[simp] theorem values_map_atom (V : α → Bool) (as : List α) :
    values V (as.map atom) = as.map V := by
  induction as with
  | nil => rfl
  | cons a as ih => rw [List.map_cons, values, value, ih]; rfl

@[simp] theorem atomsOfMembers_map_atom (as : List α) : atomsOfMembers (as.map atom) = as := by
  induction as with
  | nil => rfl
  | cons a as ih => rw [List.map_cons, atomsOfMembers, atoms, ih]; rfl

@[simp] theorem printAll_map_atom (as : List String) : printAll (as.map atom) = as := by
  induction as with
  | nil => rfl
  | cons a as ih =>
    rw [List.map_cons, printAll, List.filterMap_cons, print_atom]
    exact congrArg _ ih

/-- Fragments in one group. A leading word AND is no fragment but the connective. -/
def flat (fragments : List String) : Formula String :=
  if fragments.head? = some Query.leadingAnd then group .and (fragments.tail.map atom)
  else group .or (fragments.map atom)

theorem print_flat (fragments : List String) :
    (flat fragments).print = Condition.combined fragments := by
  unfold flat Condition.combined
  split <;> rw [print_group, printAll_map_atom]

end Formula

/-! ## What nested lists stand for -/

namespace Condition

variable {Q : Type}

mutual

/-- The fragments of a condition that the caller wrote as SQL, from left to right. -/
def fragments : Condition Q → List String
  | raw sql => [sql]
  | list items => fragmentsOfItems items
  | fields _ | query _ | value _ => []

def fragmentsOfItems : List (Condition Q) → List String
  | [] => []
  | c :: cs => fragments c ++ fragmentsOfItems cs

end

/-- The word AND leads the list. -/
def leads : List (Condition Q) → Bool
  | raw sql :: _ => sql = Query.leadingAnd
  | _ => false

mutual

/-- What a condition made of fragments and lists stands for: the elements of a list are
alternatives, or stand under AND if that word leads them. -/
def nested : Condition Q → Formula String
  | raw sql => .atom sql
  | list items =>
    if leads items then .group .and (nestedItems items).tail else .group .or (nestedItems items)
  | fields _ | query _ | value _ => .group .or []

def nestedItems : List (Condition Q) → List (Formula String)
  | [] => []
  | c :: cs => nested c :: nestedItems cs

end

mutual

/-- The condition is made of fragments and lists alone. -/
def isLiteral : Condition Q → Bool
  | raw _ => true
  | list items => areLiteral items
  | fields _ | query _ | value _ => false

def areLiteral : List (Condition Q) → Bool
  | [] => true
  | c :: cs => isLiteral c && areLiteral cs

end

mutual

/-- The condition is made of fragments and lists, and no list is led by AND. -/
def isUnled : Condition Q → Bool
  | raw _ => true
  | list items => !leads items && areUnled items
  | fields _ | query _ | value _ => false

def areUnled : List (Condition Q) → Bool
  | [] => true
  | c :: cs => isUnled c && areUnled cs

end

/-- Lists whose fragments can be put into one group. -/
inductive Kept : Condition Q → Prop
  /-- Alternatives at every level. -/
  | any {items : List (Condition Q)} (h : areUnled items = true)
    (hfirst : (fragmentsOfItems items).head? ≠ some Query.leadingAnd) : Kept (list items)
  /-- Under AND, elements of one fragment at most. -/
  | all {items : List (Condition Q)} (h : areUnled items = true)
    (hsingle : ∀ c ∈ items, c.fragments.length ≤ 1) : Kept (list (raw Query.leadingAnd :: items))
  /-- One list, and nothing in the elements around it. -/
  | alone {before after : List (Condition Q)} {c : Condition Q} (h : Kept c)
    (hbefore : fragmentsOfItems before = []) (hafter : fragmentsOfItems after = []) :
    Kept (list (before ++ c :: after))

/-! ## Meaning and atoms -/

mutual

theorem atoms_nested_sublist : (c : Condition Q) → List.Sublist (nested c).atoms c.fragments
  | raw sql => .refl _
  | list items => by
    have h := atoms_nestedItems_sublist items
    rw [nested, fragments]
    split
    · cases items with
      | nil => exact h
      | cons c cs =>
        exact (List.sublist_append_right _ _).trans h
    · exact h
  | fields _ | query _ | value _ => List.nil_sublist _

theorem atoms_nestedItems_sublist : (cs : List (Condition Q)) →
    List.Sublist (Formula.atomsOfMembers (nestedItems cs)) (fragmentsOfItems cs)
  | [] => .slnil
  | c :: cs => (atoms_nested_sublist c).append (atoms_nestedItems_sublist cs)

end

mutual

/-- Where no list is led by AND, all fragments are alternatives of one another. -/
theorem value_nested_of_isUnled (V : String → Bool) : {c : Condition Q} → c.isUnled = true →
    (nested c).value V = Connective.or.verdict (c.fragments.map V)
  | raw sql, _ => by simp [nested, fragments, Formula.value, Connective.verdict, Connective.holds]
  | list items, h => by
    rw [isUnled, Bool.and_eq_true, Bool.not_eq_true'] at h
    rw [nested, h.1, fragments]
    exact verdict_values_of_areUnled V h.2
  | fields _, h | query _, h | value _, h => by
    rw [isUnled] at h
    cases h

theorem verdict_values_of_areUnled (V : String → Bool) : {cs : List (Condition Q)} →
    areUnled cs = true → Connective.or.verdict (Formula.values V (nestedItems cs)) =
      Connective.or.verdict ((fragmentsOfItems cs).map V)
  | [], _ => rfl
  | c :: cs, h => by
    rw [areUnled, Bool.and_eq_true] at h
    rw [nestedItems, fragmentsOfItems, List.map_append]
    exact Formula.verdict_values_cons (value_nested_of_isUnled V h.1)
      (verdict_values_of_areUnled V h.2)

end

mutual

theorem atoms_nested_of_isUnled : {c : Condition Q} → c.isUnled = true →
    (nested c).atoms = c.fragments
  | raw sql, _ => rfl
  | list items, h => by
    rw [isUnled, Bool.and_eq_true, Bool.not_eq_true'] at h
    rw [nested, h.1, fragments]
    exact atoms_of_areUnled h.2
  | fields _, h | query _, h | value _, h => by
    rw [isUnled] at h
    cases h

theorem atoms_of_areUnled : {cs : List (Condition Q)} → areUnled cs = true →
    Formula.atomsOfMembers (nestedItems cs) = fragmentsOfItems cs
  | [], _ => rfl
  | c :: cs, h => by
    rw [areUnled, Bool.and_eq_true] at h
    rw [nestedItems, fragmentsOfItems, Formula.atomsOfMembers, atoms_nested_of_isUnled h.1,
      atoms_of_areUnled h.2]

end

/-- Under AND, elements of one fragment at most are that fragment. -/
theorem verdict_values_of_single (V : String → Bool) {cs : List (Condition Q)}
    (h : areUnled cs = true) (hsingle : ∀ c ∈ cs, c.fragments.length ≤ 1) :
    Connective.and.verdict (Formula.values V (nestedItems cs)) =
      Connective.and.verdict ((fragmentsOfItems cs).map V) := by
  induction cs with
  | nil => rfl
  | cons c cs ih =>
    rw [areUnled, Bool.and_eq_true] at h
    have hc : (c.fragments.map V).length ≤ 1 := by
      rw [List.length_map]
      exact hsingle c List.mem_cons_self
    rw [nestedItems, fragmentsOfItems, List.map_append]
    refine Formula.verdict_values_cons ?_ (ih h.2 fun d hd => hsingle d (List.mem_cons_of_mem c hd))
    rw [value_nested_of_isUnled V h.1, Connective.verdict_of_length_le_one hc]

theorem atoms_of_fragmentsOfItems_eq_nil {cs : List (Condition Q)} (h : fragmentsOfItems cs = []) :
    Formula.atomsOfMembers (nestedItems cs) = [] :=
  List.sublist_nil.1 (h ▸ atoms_nestedItems_sublist cs)

theorem fragmentsOfItems_append (cs ds : List (Condition Q)) :
    fragmentsOfItems (cs ++ ds) = fragmentsOfItems cs ++ fragmentsOfItems ds := by
  induction cs with
  | nil => rfl
  | cons c cs ih => rw [List.cons_append, fragmentsOfItems, ih, fragmentsOfItems, List.append_assoc]

theorem nestedItems_append (cs ds : List (Condition Q)) :
    nestedItems (cs ++ ds) = nestedItems cs ++ nestedItems ds := by
  induction cs with
  | nil => rfl
  | cons c cs ih => rw [List.cons_append, nestedItems, ih, nestedItems, List.cons_append]

theorem exists_of_leads {items : List (Condition Q)} (h : leads items = true) :
    ∃ rest, items = raw Query.leadingAnd :: rest := by
  unfold leads at h
  split at h
  · exact ⟨_, by rw [of_decide_eq_true h]⟩
  · cases h

/-- A list that is led by AND has that word for its first fragment. -/
theorem head?_of_leads {items : List (Condition Q)} (h : leads items = true) :
    (fragmentsOfItems items).head? = some Query.leadingAnd := by
  obtain ⟨rest, rfl⟩ := exists_of_leads h
  rfl

theorem Kept.not_leads {before after : List (Condition Q)} {c : Condition Q} (h : Kept c)
    (hbefore : fragmentsOfItems before = []) : leads (before ++ c :: after) = false := by
  cases before with
  | nil => cases h <;> rfl
  | cons b before =>
    cases b with
    | raw sql => cases hbefore
    | list _ | fields _ | query _ | value _ => rfl

/-- **Kept lists keep their meaning.** The fragments in one group have the value and the atoms of
the lists they stood in. -/
theorem Kept.flat {c : Condition Q} (h : Kept c) :
    (∀ V, (Formula.flat c.fragments).value V = c.nested.value V) ∧
      (Formula.flat c.fragments).atoms = c.nested.atoms := by
  induction h with
  | @any items h hfirst =>
    have hleads : leads items = false :=
      Bool.eq_false_iff.2 fun hleads => hfirst (head?_of_leads hleads)
    rw [fragments, Formula.flat, if_neg hfirst, nested, hleads]
    refine ⟨fun V => ?_, ?_⟩
    · rw [Formula.value, Formula.values_map_atom]
      exact (verdict_values_of_areUnled V h).symm
    · rw [Formula.atoms, Formula.atomsOfMembers_map_atom]
      exact (atoms_of_areUnled h).symm
  | @all items h hsingle =>
    have hleads : leads (raw Query.leadingAnd :: items) = true := by simp [leads]
    rw [nested, hleads, if_pos rfl, nestedItems, List.tail_cons]
    rw [fragments, fragmentsOfItems, fragments, Formula.flat, List.singleton_append,
      List.head?_cons, if_pos rfl, List.tail_cons]
    refine ⟨fun V => ?_, ?_⟩
    · rw [Formula.value, Formula.values_map_atom, Formula.value,
        verdict_values_of_single V h hsingle]
    · rw [Formula.atoms, Formula.atomsOfMembers_map_atom, Formula.atoms, atoms_of_areUnled h]
  | @alone before after c h hbefore hafter ih =>
    have htexts : (list (before ++ c :: after)).fragments = c.fragments := by
      rw [fragments, fragmentsOfItems_append, fragmentsOfItems, hbefore, hafter, List.nil_append,
        List.append_nil]
    rw [htexts, nested, h.not_leads hbefore, if_neg Bool.false_ne_true, nestedItems_append,
      nestedItems]
    have hb := atoms_of_fragmentsOfItems_eq_nil hbefore
    have ha := atoms_of_fragmentsOfItems_eq_nil hafter
    refine ⟨fun V => ?_, ?_⟩
    · rw [ih.1, Formula.value, Formula.values_append, Formula.values_eq_nil_iff.2 hb,
        List.nil_append, Formula.values, Formula.values_eq_nil_iff.2 ha, List.append_nil,
        Connective.verdict_toList]
    · rw [ih.2, Formula.atoms, Formula.atomsOfMembers_append, hb, List.nil_append,
        Formula.atomsOfMembers, ha, List.append_nil]

/-! ## The text of nested lists -/

mutual

/-- A list within a list adds its fragments to those around it. -/
theorem parts_of_isLiteral (operator : String) (modifier : Option String) :
    {c : Condition Query} → c.isLiteral = true →
      parts operator modifier c = (pure c.fragments : Render (List String))
  | raw _, _ => rfl
  | list items, h => by
    rw [isLiteral] at h
    exact partsOfItems_of_areLiteral operator modifier h
  | fields _, h | query _, h | value _, h => by
    rw [isLiteral] at h
    cases h

theorem partsOfItems_of_areLiteral (operator : String) (modifier : Option String) :
    {cs : List (Condition Query)} → areLiteral cs = true →
      partsOfItems operator modifier cs = (pure (fragmentsOfItems cs) : Render (List String))
  | [], _ => rfl
  | c :: cs, h => by
    rw [areLiteral, Bool.and_eq_true] at h
    rw [partsOfItems, parts_of_isLiteral operator modifier h.1,
      partsOfItems_of_areLiteral operator modifier h.2]
    rfl

end

theorem text_of_isLiteral {c : Condition Query} (h : c.isLiteral = true) :
    text c none none none = (pure (Formula.flat c.fragments).print : Render (Option String)) := by
  rw [Formula.print_flat]
  cases c with
  | raw _ => rfl
  | list items =>
    rw [isLiteral] at h
    rw [text, partsWith, partsOfItems_of_areLiteral _ _ h]
    rfl
  | fields _ | query _ | value _ =>
    rw [isLiteral] at h
    cases h

end Condition

/-- The draft with a clause added, if there is one. -/
def Draft.withClause (d : Draft) (clause : Option String) : Draft :=
  { d with query := { d.query with conditions := d.query.conditions ++ clause.toList } }

namespace Call

theorem run_whereClause_of_isLiteral {c : Condition Query} (h : c.isLiteral = true) (d : Draft) :
    (whereClause c).run d = (.ok none, d.withClause (Formula.flat c.fragments).print) := by
  have hedit : Edit.addCondition c none none none d =
      (.ok (), d.withClause (Formula.flat c.fragments).print) := by
    rw [Edit.addCondition, Condition.text_of_isLiteral h]
    rfl
  change (Edit.addCondition c none none none >>= fun _ => pure none) d = _
  rw [bind_of_ok hedit]
  rfl

/-- **Nested lists become one group.** A condition made of fragments and lists is never refused, and
adds one clause at most. Read by its parentheses and with AND before OR, the clause has the value
of all fragments in one group, under the connective that the first fragment decides on. This is the
value of the lists at every level, and the word AND is nowhere a condition, for lists that are
kept. -/
theorem nested_lists {c : Condition Query} (hc : c.isLiteral = true) (d : Draft) :
    ∃ ls, (whereClause c).run d = (.ok none, d.withClause (Lexeme.written ls)) ∧
      (∀ V, read V ls = (Formula.flat c.fragments).value V) ∧
      ls.filterMap Lexeme.atom? = (Formula.flat c.fragments).atoms ∧
      (c.Kept → (∀ V, read V ls = c.nested.value V) ∧
        ls.filterMap Lexeme.atom? = c.nested.atoms) := by
  have hatoms := (Formula.flat c.fragments).filterMap_lexemes
  refine ⟨(Formula.flat c.fragments).lexemes, run_whereClause_of_isLiteral hc d,
    fun V => Formula.read_lexemes V _, hatoms, fun h => ⟨fun V => ?_, hatoms.trans h.flat.2⟩⟩
  rw [Formula.read_lexemes, h.flat.1]

end Call

namespace Condition

/-- Two conditions that have to hold together, in a list of one, beside an empty list. -/
def both : Condition Query :=
  .list [.list [], .list [.raw "AND", .raw "a = 1", .list [.raw "b = 2"], .list []]]

theorem both_kept : both.isLiteral = true ∧ both.Kept ∧
    ∃ ls, ((Call.whereClause both).run ⟨{}, 0, []⟩).2.query.conditions = ["(a = 1 AND b = 2)"] ∧
      Lexeme.written ls = some "(a = 1 AND b = 2)" ∧
      (∀ V, read V ls = some (V "a = 1" && V "b = 2")) ∧
      ls.filterMap Lexeme.atom? = ["a = 1", "b = 2"] := by
  have hkept : both.Kept :=
    @Kept.alone _ [.list []] [] _ (.all (by decide) (by decide)) rfl rfl
  obtain ⟨ls, hrun, -, -, h⟩ := Call.nested_lists (c := both) (by decide) ⟨{}, 0, []⟩
  obtain ⟨hread, hatoms⟩ := h hkept
  have hconditions : ((Call.whereClause both).run ⟨{}, 0, []⟩).2.query.conditions =
      ["(a = 1 AND b = 2)"] := by decide +kernel
  refine ⟨by decide, hkept, ls, hconditions, ?_, fun V => ?_, hatoms.trans (by decide)⟩
  · rw [hrun] at hconditions
    exact Option.toList_eq_singleton_iff.1 hconditions
  · rw [hread]
    simp [both, nested, nestedItems, leads, Query.leadingAnd, Formula.value, Formula.values,
      Connective.verdict, Connective.holds]

/-- An alternative of two conditions that have to hold together. -/
def eitherOrBoth : Condition Query :=
  .list [.raw "a = 1", .list [.raw "AND", .raw "b = 2", .raw "c = 3"]]

/-- A condition that has to hold together with one of two others. -/
def andEither : Condition Query :=
  .list [.raw "AND", .raw "a = 1", .list [.raw "b = 2", .raw "c = 3"]]

/-- In the first case the word AND is written as a condition, and in the second one the clause can
be false where the lists are true. -/
theorem inner_lists_lost :
    ((Call.whereClause eitherOrBoth).run ⟨{}, 0, []⟩).2.query.conditions =
        ["(a = 1 OR AND OR b = 2 OR c = 3)"] ∧
      eitherOrBoth.nested.atoms = ["a = 1", "b = 2", "c = 3"] ∧
      eitherOrBoth.nested.print = some "(a = 1 OR (b = 2 AND c = 3))" ∧
      ((Call.whereClause andEither).run ⟨{}, 0, []⟩).2.query.conditions =
        ["(a = 1 AND b = 2 AND c = 3)"] ∧
      andEither.nested.print = some "(a = 1 AND (b = 2 OR c = 3))" ∧
      ∃ ls V, Lexeme.written ls = some "(a = 1 AND b = 2 AND c = 3)" ∧
        ls.filterMap Lexeme.atom? = andEither.nested.atoms ∧
        read V ls = some false ∧ andEither.nested.value V = some true := by
  refine ⟨by decide +kernel, by decide +kernel, by decide +kernel, by decide +kernel,
    by decide +kernel, ?_⟩
  exact ⟨[.opening, .atom "a = 1", .word .and, .atom "b = 2", .word .and, .atom "c = 3", .closing],
    fun sql => sql != "c = 3", by decide +kernel, by decide +kernel, by decide +kernel,
    by decide +kernel⟩

end Condition
end SqlBuilder
