import SqlBuilder.Condition
import SqlBuilder.Proofs.Substitution.Subquery

/-!
# Alike conditions

Alike conditions differ in the values that fields are compared with, and in the queries they
hold. A plain value in the place of a condition is none of these: it is refused under its kind,
and so it stays as it is. Every function from a condition to its text runs in lockstep on alike
conditions, by recursion on the operand or the condition as in the function itself.
-/

namespace SqlBuilder

variable {σ : Substitution} {Q : Type} {E : Q → Q → Prop}

/-- The same condition, except for values that are compared with and related queries. -/
inductive Condition.Alike (σ : Substitution) (E : Q → Q → Prop) :
    Condition Q → Condition Q → Prop
  | raw (sql : String) : Alike σ E (.raw sql) (.raw sql)
  | list {cs ds : List (Condition Q)} (h : List.Forall₂ (Alike σ E) cs ds) :
    Alike σ E (.list cs) (.list ds)
  | fields {f g : Fields} (h : f.Alike σ.At g) : Alike σ E (.fields f) (.fields g)
  | query {q r : Q} (h : E q r) : Alike σ E (.query q) (.query r)
  | value (v : Value) : Alike σ E (.value v) (.value v)

namespace Condition

/-! ## Comparisons -/

mutual

theorem compare_alike (operator : String) (modifier : Option String) (field : String) :
    {v w : Operand} → v.Alike σ.At w →
      σ.Renders (compare operator modifier field v) (compare operator modifier field w)
  | .value _, _, h@(.value _) => by
    unfold compare
    exact .bind (Binder.bindOperand_alike h modifier) fun text => .pure _
  | .data _ _, _, h@(.data _ _) => by
    unfold compare
    exact .bind (Binder.bindOperand_alike h modifier) fun text => .pure _
  | .raw _, _, .raw _ => by
    unfold compare
    exact .throw _
  | .object _, _, .object _ _ => by
    unfold compare
    exact .throw _
  | .list _, _, .list h => by
    unfold compare
    cases membership? operator with
    | none => exact compareEach_alike operator modifier field h
    | some keyword =>
      refine .bind (.mapM (fun v w hvw => ?_) h) fun texts => .pure _
      exact Binder.bindOperand_alike hvw modifier

theorem compareEach_alike (operator : String) (modifier : Option String) (field : String) :
    {vs ws : List Operand} → List.Forall₂ (Operand.Alike σ.At) vs ws →
      σ.Renders (compareEach operator modifier field vs) (compareEach operator modifier field ws)
  | [], _, .nil => .pure []
  | _ :: _, _, .cons h hs => by
    unfold compareEach
    refine .bind (compare_alike operator modifier field h) fun first => ?_
    exact .bind (compareEach_alike operator modifier field hs) fun rest => .pure _

end

theorem compareFields_alike (operator : String) (modifier : Option String)
    {fs gs : List (String × Operand)} (h : Entries.Alike (Operand.Alike σ.At) fs gs) :
    σ.Renders (compareFields operator modifier fs) (compareFields operator modifier gs) := by
  induction h generalizing operator with
  | nil => exact .pure []
  | @cons f g fs gs hfg _ ih =>
    obtain ⟨field, v⟩ := f
    obtain ⟨field', w⟩ := g
    obtain ⟨rfl, hvw⟩ : field = field' ∧ v.Alike σ.At w := hfg
    unfold compareFields
    rw [← hvw.isTrue_eq]
    refine .ite (ih (negated operator)) ?_
    refine .bind (compare_alike operator modifier field hvw) fun first => ?_
    exact .bind (ih operator) fun rest => .pure _

theorem objectText_alike (operator : String) (modifier : Option String) {f g : Fields}
    (h : f.Alike σ.At g) :
    σ.Renders (objectText operator modifier f) (objectText operator modifier g) :=
  .bind (compareFields_alike operator modifier h) fun _ => .pure _

/-! ## Conditions as text -/

mutual

theorem fieldNames_eq : {c d : Condition Q} → c.Alike σ E d → fieldNames c = fieldNames d
  | .raw _, _, .raw _ => rfl
  | .fields _, _, .fields _ => rfl
  | .query _, _, .query _ => rfl
  | .value _, _, .value _ => rfl
  | .list _, _, .list h => by
    unfold fieldNames
    exact fieldNamesOfItems_eq h

theorem fieldNamesOfItems_eq : {cs ds : List (Condition Q)} →
    List.Forall₂ (Condition.Alike σ E) cs ds → fieldNamesOfItems cs = fieldNamesOfItems ds
  | [], _, .nil => rfl
  | _ :: _, _, .cons h hs => by
    unfold fieldNamesOfItems
    rw [fieldNames_eq h, fieldNamesOfItems_eq hs]

end

mutual

theorem parts_alike (operator : String) (modifier : Option String) :
    {c d : Condition Query} → c.Alike σ (Query.Alike σ) d →
      σ.Renders (parts operator modifier c) (parts operator modifier d)
  | .raw sql, _, .raw _ => by
    unfold parts
    exact .pure [sql]
  | .list _, _, .list h => by
    unfold parts
    exact partsOfItems_alike operator modifier h
  | .fields _, _, .fields h => by
    unfold parts
    exact .bind (objectText_alike operator modifier h) fun text => .pure _
  | .query _, _, .query h => by
    unfold parts
    exact .bind h.embedGroup fun group => .pure _
  | .value _, _, .value _ => by
    unfold parts
    exact .throw _

theorem partsOfItems_alike (operator : String) (modifier : Option String) :
    {cs ds : List (Condition Query)} → List.Forall₂ (Condition.Alike σ (Query.Alike σ)) cs ds →
      σ.Renders (partsOfItems operator modifier cs) (partsOfItems operator modifier ds)
  | [], _, .nil => .pure []
  | _ :: _, _, .cons h hs => by
    unfold partsOfItems
    refine .bind (parts_alike operator modifier h) fun first => ?_
    exact .bind (partsOfItems_alike operator modifier hs) fun rest => .pure _

end

theorem compareAll_alike (operator : String) (modifier : Option String) {v w : Operand}
    (h : v.Alike σ.At w) (names : List String) :
    σ.Renders (compareAll operator modifier v names) (compareAll operator modifier w names) := by
  induction names with
  | nil => exact .pure []
  | cons name names ih =>
    exact .bind (compare_alike operator modifier name h) fun first => .bind ih fun rest => .pure _

theorem partsWith_alike (operator : String) (modifier : Option String) {c d : Condition Query}
    (h : c.Alike σ (Query.Alike σ) d) {v w : Option Operand}
    (hvw : Option.Rel (Operand.Alike σ.At) v w) :
    σ.Renders (partsWith operator modifier c v) (partsWith operator modifier d w) := by
  cases hvw with
  | none =>
    cases h with
    | raw sql => exact .pure [sql]
    | list h => exact partsOfItems_alike operator modifier h
    | fields h => exact .bind (objectText_alike operator modifier h) fun text => .pure _
    | query h => exact h.embedGroup
    | value v => exact .throw _
  | some hvw =>
    have hnames := fieldNames_eq h
    cases h with
    | raw sql =>
      exact .bind (.except hnames) fun names => compareAll_alike operator modifier hvw names
    | list h =>
      exact .bind (.except hnames) fun names => compareAll_alike operator modifier hvw names
    | fields h => exact .throw _
    | query h => exact .throw _
    | value v => exact .throw _

theorem text_alike {c d : Condition Query} (h : c.Alike σ (Query.Alike σ) d)
    {v w : Option Operand} (hvw : Option.Rel (Operand.Alike σ.At) v w)
    (operator modifier : Option String) :
    σ.Renders (c.text v operator modifier) (d.text w operator modifier) :=
  .bind (partsWith_alike _ modifier h hvw) fun _ => .pure _

end Condition
end SqlBuilder
