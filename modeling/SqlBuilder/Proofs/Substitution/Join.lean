import SqlBuilder.Column
import SqlBuilder.Join
import SqlBuilder.Proofs.Substitution.Subquery

/-!
# Alike columns and joins

These are the two places where a text may stand for something other than a value: a plain text in
the place of a column is the column's name, and so is a plain text that a column is joined on.
There a text is not replaced. Within a list, or under a tag, a text is a value like any other.
-/

namespace SqlBuilder

variable {σ : Substitution} {Q : Type} {E : Q → Q → Prop}

/-! ## Columns -/

/-- The same column, except for values that are no texts, tagged values and related queries. -/
inductive Column.Alike (σ : Substitution) (E : Q → Q → Prop) : Column Q → Column Q → Prop
  | name (s : String) : Alike σ E (.name s) (.name s)
  | value {v w : Value} (h : σ.Except Value.isText v w) : Alike σ E (.value v) (.value w)
  | data {v w : Value} (h : σ.At v w) (modifier : Option String) :
    Alike σ E (.data v modifier) (.data w modifier)
  | query {q r : Q} (h : E q r) : Alike σ E (.query q) (.query r)

namespace Column

/-- A value that is bound, and no text, is bound as a column. -/
theorem text_of_bound {v : Value} (h : Binder.inline? v = none) (ht : v.isText = false) :
    text (.value v) = (Binder.bind v none : Render String) := by
  cases v with
  | null => cases h
  | bool b => cases b <;> cases h
  | text s => cases ht
  | _ => rfl

theorem text_alike {c d : Column Query} (h : c.Alike σ (Query.Alike σ) d) :
    σ.Renders c.text d.text := by
  cases h with
  | name s => exact .pure s
  | data h modifier => exact Binder.bind_alike h modifier
  | @value v w h =>
    rcases h with rfl | ⟨h, hv, hw⟩
    · cases v with
      | null => exact .throw _
      | bool b => exact .throw _
      | text s => exact .pure s
      | _ => exact Binder.bind_alike (.refl _) none
    · rw [text_of_bound (σ.bound h).1 hv, text_of_bound (σ.bound h).2 hw]
      exact Binder.bind_alike (.inr h) none
  | @query q r h =>
    have hsingle : isSingle q = isSingle r := h.congr isSingle fun _ _ => rfl
    simp only [text, ← hsingle]
    exact .ite h.embed (.throw _)

theorem isName_of_not_isText {v : Value} (h : v.isText = false) :
    (Column.value v : Column Query).isName = false := by
  cases v with
  | text s => cases h
  | _ => rfl

theorem Alike.isName_eq {E : Query → Query → Prop} {c d : Column Query} (h : c.Alike σ E d) :
    c.isName = d.isName := by
  cases h with
  | value h =>
    rcases h with rfl | ⟨-, hv, hw⟩
    · rfl
    · rw [isName_of_not_isText hv, isName_of_not_isText hw]
  | _ => rfl

end Column

/-! ## Conditions of a join -/

namespace JoinOn

/-- The same right-hand side of a comparison in a join, except for values. A plain text is the
name of a column, so it stays. -/
inductive SideAlike (σ : Substitution) : Operand → Operand → Prop
  | value {v w : Value} (h : σ.Except Value.isText v w) : SideAlike σ (.value v) (.value w)
  | list {vs ws : List Operand} (h : List.Forall₂ (Operand.Alike σ.At) vs ws) :
    SideAlike σ (.list vs) (.list ws)
  | data {v w : Value} (h : σ.At v w) (modifier : Option String) :
    SideAlike σ (.data v modifier) (.data w modifier)
  | raw (sql : String) : SideAlike σ (.raw sql) (.raw sql)
  | object (fs gs : List (String × Operand)) : SideAlike σ (.object fs) (.object gs)

/-- The same conditions, except for values on the right-hand sides. -/
inductive Alike (σ : Substitution) : JoinOn → JoinOn → Prop
  | raw (sql : String) : Alike σ (.raw sql) (.raw sql)
  | list {ons ons' : List JoinOn} (h : List.Forall₂ (Alike σ) ons ons') :
    Alike σ (.list ons) (.list ons')
  | fields {f g : Fields} (h : Entries.Alike (SideAlike σ) f.entries g.entries) :
    Alike σ (.fields f) (.fields g)

theorem SideAlike.isTrue_eq {v w : Operand} (h : SideAlike σ v w) : v.isTrue = w.isTrue := by
  cases h with
  | value h => exact (Operand.Alike.value h.at).isTrue_eq
  | _ => rfl

theorem rightSide_of_not_isText (field : String) {v : Value} (h : v.isText = false) :
    rightSide field (.value v) = Binder.bindOperand (.value v) none := by
  cases v with
  | text s => cases h
  | _ => rfl

theorem rightSide_alike (field : String) {v w : Operand} (h : SideAlike σ v w) :
    σ.Renders (rightSide field v) (rightSide field w) := by
  cases h with
  | raw sql => exact .pure sql
  | data h modifier => exact Binder.bindOperand_alike (.data h modifier) none
  | list h => exact .throw _
  | object fs gs => exact .throw _
  | @value v w h =>
    rcases h with rfl | ⟨h, hv, hw⟩
    · cases v with
      | text s => exact .pure s
      | _ => exact Binder.bindOperand_alike (.value (.refl _)) none
    · rw [rightSide_of_not_isText field hv, rightSide_of_not_isText field hw]
      exact Binder.bindOperand_alike (.value (.inr h)) none

theorem compare_alike (negated : Bool) (field : String) {v w : Operand} (h : SideAlike σ v w) :
    σ.Renders (compare negated field v) (compare negated field w) := by
  have hside := rightSide_alike field h
  cases h with
  | list h =>
    refine .bind (.mapM (fun v w hvw => ?_) h) fun texts => .pure _
    exact Binder.bindOperand_alike hvw none
  | value h => exact .bind hside fun text => .pure _
  | data h modifier => exact .bind hside fun text => .pure _
  | raw sql => exact .bind hside fun text => .pure _
  | object fs gs => exact .bind hside fun text => .pure _

theorem compareFields_alike (negated : Bool) {fs gs : List (String × Operand)}
    (h : Entries.Alike (SideAlike σ) fs gs) :
    σ.Renders (compareFields negated fs) (compareFields negated gs) := by
  induction h generalizing negated with
  | nil => exact .pure []
  | @cons f g fs gs hfg _ ih =>
    obtain ⟨field, v⟩ := f
    obtain ⟨field', w⟩ := g
    obtain ⟨rfl, hvw⟩ : field = field' ∧ SideAlike σ v w := hfg
    unfold compareFields
    rw [← hvw.isTrue_eq]
    refine .ite (ih true) ?_
    refine .bind (compare_alike negated field hvw) fun first => ?_
    exact .bind (ih negated) fun rest => .pure _

mutual

theorem text_alike (connective : String) : {on on' : JoinOn} → on.Alike σ on' →
    σ.Renders (text connective on) (text connective on')
  | .raw sql, _, .raw _ => by
    unfold text
    exact .pure sql
  | .fields _, _, .fields h => by
    unfold text
    exact .bind (compareFields_alike false h) fun parts => .pure _
  | .list _, _, .list h => by
    unfold text
    exact .bind (texts_alike h) fun parts => .pure _

theorem texts_alike : {ons ons' : List JoinOn} → List.Forall₂ (Alike σ) ons ons' →
    σ.Renders (texts ons) (texts ons')
  | [], _, .nil => .pure []
  | _ :: _, _, .cons h hs => by
    unfold texts
    exact .bind (text_alike _ h) fun first => .bind (texts_alike hs) fun rest => .pure _

end

end JoinOn

/-! ## Joins -/

/-- The same target, up to related queries. -/
inductive JoinTarget.Alike (E : Q → Q → Prop) : JoinTarget Q → JoinTarget Q → Prop
  | table (name : String) : Alike E (.table name) (.table name)
  | query {q r : Q} (h : E q r) : Alike E (.query q) (.query r)

/-- The same options, except for values in the conditions and a related query as the target. -/
structure JoinOptions.Alike (σ : Substitution) (E : Q → Q → Prop) (o p : JoinOptions Q) :
    Prop where
  words : p = { o with target := p.target, on := p.on }
  target : Option.Rel (JoinTarget.Alike E) o.target p.target
  on : Option.Rel (JoinOn.Alike σ) o.on p.on

/-- The same join, except for values in the conditions and related queries. -/
inductive Join.Alike (σ : Substitution) (E : Q → Q → Prop) : Join Q → Join Q → Prop
  | raw (sql : String) : Alike σ E (.raw sql) (.raw sql)
  | options {o p : JoinOptions Q} (h : o.Alike σ E p) : Alike σ E (.options o) (.options p)
  | query {q r : Q} (h : E q r) : Alike σ E (.query q) (.query r)

namespace Join

theorem targetParts_alike (aliasName : Option String) {t u : Option (JoinTarget Query)}
    (h : Option.Rel (JoinTarget.Alike (Query.Alike σ)) t u) :
    σ.Renders (targetParts aliasName t) (targetParts aliasName u) := by
  cases h with
  | none => exact .throw _
  | some h =>
    cases h with
    | table name => exact .ite (.throw _) (.pure _)
    | query h => exact .bind (h.named aliasName).embed fun text => .pure [text]

theorem linkParts_alike {o p : JoinOptions Query} (h : o.Alike σ (Query.Alike σ) p) :
    σ.Renders (linkParts o) (linkParts p) := by
  have husing : p.usingColumns = o.usingColumns := by rw [h.words]
  have hconnective : p.onConnective = o.onConnective := by rw [h.words]
  unfold linkParts
  rw [husing, hconnective]
  refine .ite ?_ (.pure _)
  match o.on, p.on, h.on with
  | _, _, .none => exact .pure []
  | _, _, .some hon => exact .bind (JoinOn.text_alike _ hon) fun text => .pure _

theorem optionsText_alike {o p : JoinOptions Query} (h : o.Alike σ (Query.Alike σ) p) :
    σ.Renders (optionsText o) (optionsText p) := by
  have halias : p.aliasName = o.aliasName := by rw [h.words]
  have hkind : p.kind = o.kind := by rw [h.words]
  unfold optionsText
  rw [halias, hkind]
  refine .bind (targetParts_alike _ h.target) fun target => ?_
  exact .bind (linkParts_alike h) fun link => .pure _

theorem text_alike (kind : Option JoinKind) {j k : Join Query}
    (h : j.Alike σ (Query.Alike σ) k) : σ.Renders (text kind j) (text kind k) := by
  cases h with
  | query h => exact .throw _
  | raw sql => exact .ite (.throw _) (.pure _)
  | @options o p h =>
    have hkind : p.kind = o.kind := by rw [h.words]
    unfold text
    refine optionsText_alike ⟨?_, h.target, h.on⟩
    rw [hkind, h.words]

end Join
end SqlBuilder
