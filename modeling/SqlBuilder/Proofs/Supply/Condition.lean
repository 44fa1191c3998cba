import SqlBuilder.Proofs.Supply.Writes

/-!
# Conditions are supplied for

A condition is given its fragments, the names of its fields, the operator and the function to be
applied, and puts out text made of these and of bound values. The other queries in it count by
what they leave loose.
-/

namespace SqlBuilder

namespace Condition

variable {S : String → Value → Prop}

/-- What a condition needs of the query it is added to. -/
def needs (c : Condition Query) : List String := c.sqlTexts ++ c.queries.flatMap Query.loose

/-! ## Groups -/

theorem covers_joined {b : Bindings} {parts : List String} (h : b.Covers parts)
    (connective : Connective) : b.Covers (joined connective parts).toList := by
  unfold joined
  split
  · exact Bindings.covers_nil b
  · exact h
  · rw [Option.toList_some, Bindings.covers_cons]
    refine ⟨?_, Bindings.covers_nil b⟩
    simp (disch := decide) only [Bindings.supplies_lead, Bindings.supplies_glue_right]
    exact (Bindings.supplies_intercalate (separates_connective connective)).2 h

theorem covers_combined {b : Bindings} {parts : List String} (h : b.Covers parts) :
    b.Covers (combined parts).toList := by
  unfold combined
  split
  · exact covers_joined (fun s hs => h s (List.mem_of_mem_tail hs)) .and
  · exact covers_joined h .or

/-! ## Comparisons -/

theorem supplies_negated {b : Bindings} {operator : String} (h : b.Supplies operator) :
    b.Supplies (negated operator) := by
  unfold negated
  split
  · simp
  · split
    · simp
    · exact h

theorem supplies_membership {b : Bindings} {operator keyword : String}
    (h : membership? operator = some keyword) : b.Supplies keyword := by
  unfold membership? at h
  split at h
  · cases h
    simp
  · split at h
    · cases h
      simp
    · cases h

/-- The comparison with a single value. -/
theorem compareValue_writes (operator : String) (modifier : Option String) (field : String)
    (v : Operand) : Writes S (field :: operator :: v.sqlTexts ++ modifier.toList)
      (do return [field ++ " " ++ operator ++ " " ++ (← Binder.bindOperand v modifier)]) id := by
  refine .bind ((Binder.bindOperand_writes v modifier).widen ?_) fun text => .pure ?_
  · simp +contextual
  · simp +contextual (disch := decide)

mutual

theorem compare_writes (operator : String) (modifier : Option String) (field : String) :
    (v : Operand) → Writes S (field :: operator :: v.sqlTexts ++ modifier.toList)
      (compare operator modifier field v) id
  | .list items => by
    unfold compare
    cases hkeyword : membership? operator with
    | some keyword =>
      refine .bind ((Writes.mapM (fun v => Binder.bindOperand_writes v modifier) items).widen ?_)
        fun texts => .pure ?_
      · simp +contextual [Operand.sqlTexts, Operand.sqlTextsOfItems_eq]
      · have hlist (b : Bindings) : b.Supplies (",".intercalate texts) ↔ b.Covers texts :=
          Bindings.supplies_intercalate (separates_singleton (c := ',') (by decide))
        simp +contextual (disch := decide) [supplies_membership hkeyword, hlist]
    | none => exact compareEach_writes operator modifier field items
  | .value v => compareValue_writes operator modifier field (.value v)
  | .data v own => compareValue_writes operator modifier field (.data v own)
  | .raw sql => compareValue_writes operator modifier field (.raw sql)
  | .object fs => compareValue_writes operator modifier field (.object fs)

theorem compareEach_writes (operator : String) (modifier : Option String) (field : String) :
    (vs : List Operand) →
      Writes S (field :: operator :: Operand.sqlTextsOfItems vs ++ modifier.toList)
        (compareEach operator modifier field vs) id
  | [] => .pure fun b hb => Bindings.covers_nil b
  | v :: vs => by
    unfold compareEach
    refine .bind ((compare_writes operator modifier field v).widen ?_) fun first =>
      .bind ((compareEach_writes operator modifier field vs).widen ?_) fun rest => .pure ?_
    all_goals simp +contextual [Operand.sqlTextsOfItems]

end

theorem compareFields_writes (operator : String) (modifier : Option String)
    (fs : List (String × Operand)) :
    Writes S (operator :: Operand.sqlTextsOfFields fs ++ modifier.toList)
      (compareFields operator modifier fs) id := by
  induction fs generalizing operator with
  | nil => exact .pure fun b _ => Bindings.covers_nil b
  | cons f fs ih =>
    unfold compareFields
    refine .ite ((ih (negated operator)).widen ?_) ?_
    · simp +contextual [Operand.sqlTextsOfFields, supplies_negated]
    · refine .bind ((compare_writes operator modifier f.1 f.2).widen ?_) fun first =>
        .bind ((ih operator).widen ?_) fun rest => .pure ?_
      all_goals simp +contextual [Operand.sqlTextsOfFields]

theorem objectText_writes (operator : String) (modifier : Option String) (f : Fields) :
    Writes S (operator :: f.sqlTexts ++ modifier.toList) (objectText operator modifier f)
      Option.toList := by
  refine .bind (compareFields_writes operator modifier f.entries) fun parts => .pure ?_
  simp +contextual [covers_joined]

/-! ## Conditions as text -/

section FieldNames

variable {Q : Type}

mutual

theorem mem_sqlTexts_of_fieldNames : {c : Condition Q} → {names : List String} →
    fieldNames c = .ok names → ∀ name ∈ names, name ∈ c.sqlTexts
  | .raw sql, _, h, name, hname => by
    cases h
    exact hname
  | .list items, _, h, name, hname => mem_sqlTexts_of_fieldNamesOfItems h name hname
  | .fields _, _, h, _, _ | .query _, _, h, _, _ | .value _, _, h, _, _ => nomatch h

theorem mem_sqlTexts_of_fieldNamesOfItems : {cs : List (Condition Q)} → {names : List String} →
    fieldNamesOfItems cs = .ok names → ∀ name ∈ names, name ∈ sqlTextsOfItems cs
  | [], _, h, name, hname => by
    cases h
    cases hname
  | c :: cs, _, h, name, hname => by
    unfold fieldNamesOfItems at h
    cases hc : fieldNames c with
    | error f =>
      rw [hc] at h
      cases h
    | ok first =>
      cases hcs : fieldNamesOfItems cs with
      | error f =>
        rw [hc, hcs] at h
        cases h
      | ok rest =>
        rw [hc, hcs] at h
        cases h
        rcases List.mem_append.1 hname with hname | hname
        · exact List.mem_append_left _ (mem_sqlTexts_of_fieldNames hc name hname)
        · exact List.mem_append_right _ (mem_sqlTexts_of_fieldNamesOfItems hcs name hname)

end

end FieldNames

mutual

theorem parts_writes (operator : String) (modifier : Option String) : (c : Condition Query) →
    (∀ q ∈ c.queries, ∀ k v, q.Brings k v → S k v) →
    Writes S (operator :: c.needs ++ modifier.toList) (parts operator modifier c) id
  | .raw sql, _ => .pure (by simp +contextual [needs, sqlTexts])
  | .list items, hS => partsOfItems_writes operator modifier items hS
  | .fields f, _ => by
    refine .bind ((objectText_writes operator modifier f).widen ?_) fun text => .pure ?_
    all_goals simp +contextual [needs, sqlTexts]
  | .query q, hS => by
    refine .bind ((q.embedGroup_writes (hS q (List.mem_singleton_self q))).widen ?_)
      fun group => .pure ?_
    all_goals simp +contextual [needs, queries, covers_combined]
  | .value _, _ => .throw _

theorem partsOfItems_writes (operator : String) (modifier : Option String) :
    (cs : List (Condition Query)) →
    (∀ q ∈ queriesOfItems cs, ∀ k v, q.Brings k v → S k v) →
    Writes S (operator :: (sqlTextsOfItems cs ++ (queriesOfItems cs).flatMap Query.loose) ++
      modifier.toList) (partsOfItems operator modifier cs) id
  | [], _ => .pure fun b _ => Bindings.covers_nil b
  | c :: cs, hS => by
    have hc := fun q hq => hS q (List.mem_append_left _ hq)
    have hcs := fun q hq => hS q (List.mem_append_right _ hq)
    unfold partsOfItems
    refine .bind ((parts_writes operator modifier c hc).widen ?_) fun first =>
      .bind ((partsOfItems_writes operator modifier cs hcs).widen ?_) fun rest => .pure ?_
    all_goals simp +contextual [needs, sqlTextsOfItems, queriesOfItems]

end

theorem compareAll_writes (operator : String) (modifier : Option String) (v : Operand)
    (names : List String) : Writes S (names ++ operator :: v.sqlTexts ++ modifier.toList)
      (compareAll operator modifier v names) id := by
  induction names with
  | nil => exact .pure fun b _ => Bindings.covers_nil b
  | cons name names ih =>
    unfold compareAll
    refine .bind ((compare_writes operator modifier name v).widen ?_) fun first =>
      .bind (ih.widen ?_) fun rest => .pure ?_
    all_goals simp +contextual

/-- The fields that a condition names, compared with the operand. -/
theorem compareNamed_writes (operator : String) (modifier : Option String) (c : Condition Query)
    (v : Operand) : Writes S (operator :: c.needs ++ v.sqlTexts ++ modifier.toList)
      (do compareAll operator modifier v (← (fieldNames c : Except Failure _))) id := by
  refine .bind (o := id) (.except fun names hnames b hb => ?_) fun names =>
    (compareAll_writes operator modifier v names).widen ?_
  · exact fun s hs => hb s (by simp [needs, mem_sqlTexts_of_fieldNames hnames s hs])
  · simp +contextual

theorem partsWith_writes (operator : String) (modifier : Option String) (c : Condition Query)
    (v : Option Operand) (hS : ∀ q ∈ c.queries, ∀ k v, q.Brings k v → S k v) :
    Writes S (operator :: c.needs ++ v.toList.flatMap Operand.sqlTexts ++ modifier.toList)
      (partsWith operator modifier c v) id := by
  cases v with
  | some v =>
    cases c with
    | raw sql | list items =>
      refine (compareNamed_writes operator modifier _ v).widen ?_
      simp +contextual
    | fields _ | query _ | value _ => exact .throw _
  | none =>
    cases c with
    | raw sql => exact .pure (by simp +contextual [needs, sqlTexts])
    | list items =>
      refine (partsOfItems_writes operator modifier items hS).widen ?_
      simp +contextual [needs, sqlTexts, queries]
    | fields f =>
      refine .bind ((objectText_writes operator modifier f).widen ?_) fun text => .pure ?_
      all_goals simp +contextual [needs, sqlTexts]
    | query q =>
      refine (q.embedGroup_writes (hS q (List.mem_singleton_self q))).widen ?_
      simp +contextual [needs, queries]
    | value _ => exact .throw _

/-- A condition is supplied for where its texts are and those of the operand. -/
theorem text_writes (c : Condition Query) (v : Option Operand) (operator modifier : Option String)
    (hS : ∀ q ∈ c.queries, ∀ k v, q.Brings k v → S k v) :
    Writes S (c.needs ++ v.toList.flatMap Operand.sqlTexts ++ operator.toList ++ modifier.toList)
      (text c v operator modifier) Option.toList := by
  refine .bind ((partsWith_writes (operator.getD "=") modifier c v hS).widen ?_)
    fun parts => .pure ?_
  · cases operator <;> simp +contextual
  · simp +contextual [covers_combined]

end Condition
end SqlBuilder
