import SqlBuilder.Call
import SqlBuilder.Proofs.Substitution.Edit

/-!
# Alike calls

Two calls are alike under a substitution if they are the same call, with values replaced where the
call takes values. A call that takes none, and no other query, is plain. The relation is open in
what stands for other queries: as calls are written down these are names, and the names are the
same; as they are carried out these are queries, and the queries are alike (`resolve_alike`).
-/

namespace SqlBuilder

variable {σ : Substitution} {Q : Type} {E : Q → Q → Prop}

namespace Call

/-- A call that takes neither values nor queries. -/
def isPlain : Call Q → Bool
  | act _ | insertInto _ | table _ _ | tableOf _ _ _ | actOn _ _ _ | deleteFromTables _ _
  | database _ | asName _ | setRaw _ | clearConditions | connective _ | comparisonMethod _
  | orderBy _ | groupBy _ | distinct _ | limit _ _ | boundParameters _ | debug _ => true
  | _ => false

/-- The same call, except for values and related queries. The cells of a row keep their
timestamps. -/
inductive Alike (σ : Substitution) (E : Q → Q → Prop) : Call Q → Call Q → Prop
  | plain (c : Call Q) (h : c.isPlain = true) : Alike σ E c c
  | insertFields (mode : InsertMode) {f g : Fields} (h : f.Alike σ.At g) :
    Alike σ E (.insertFields mode f) (.insertFields mode g)
  | fromSubquery {q r : Q} (h : E q r) (aliasName : Option String) :
    Alike σ E (.fromSubquery q aliasName) (.fromSubquery r aliasName)
  | columns {cs ds : List (Column Q)} (h : List.Forall₂ (Column.Alike σ E) cs ds) :
    Alike σ E (.columns cs) (.columns ds)
  | selectColumns {cs ds : List (Column Q)} (h : List.Forall₂ (Column.Alike σ E) cs ds) :
    Alike σ E (.selectColumns cs) (.selectColumns ds)
  | addColumn {c d : Column Q} (h : c.Alike σ E d) (unique : Bool) :
    Alike σ E (.addColumn c unique) (.addColumn d unique)
  | set (column : String) {v w : Operand} (h : v.Alike σ.At w) (modifier : Option String) :
    Alike σ E (.set column v modifier) (.set column w modifier)
  | setFields {f g : Fields} (h : f.Alike σ.At g) (modifier : Option String) :
    Alike σ E (.setFields f modifier) (.setFields g modifier)
  | addRow {f g : Fields} (h : f.Alike (σ.Except Value.isTime) g) :
    Alike σ E (.addRow f) (.addRow g)
  | addRowValues {vs ws : List Operand}
    (h : List.Forall₂ (Operand.Alike (σ.Except Value.isTime)) vs ws) :
    Alike σ E (.addRowValues vs) (.addRowValues ws)
  | addCondition {c d : Condition Q} (h : c.Alike σ E d) {v w : Option Operand}
    (hvw : Option.Rel (Operand.Alike σ.At) v w) (operator modifier : Option String) :
    Alike σ E (.addCondition c v operator modifier) (.addCondition d w operator modifier)
  | between (field : String) {low low' high high' : Value} (hlow : σ.At low low')
    (hhigh : σ.At high high') (modifier : Option String) :
    Alike σ E (.between field low high modifier) (.between field low' high' modifier)
  | inRange (field : String) {low low' high high' : Value} (hlow : σ.At low low')
    (hhigh : σ.At high high') :
    Alike σ E (.inRange field low high) (.inRange field low' high')
  | join (kind : Option JoinKind) {j k : Join Q} (h : j.Alike σ E k) :
    Alike σ E (.join kind j) (.join kind k)
  | insertBinding (name : String) {v w : Value} (h : σ.At v w) :
    Alike σ E (.insertBinding name v) (.insertBinding name w)
  | createBinding {v w : Value} (h : σ.At v w) (modifier : Option String) :
    Alike σ E (.createBinding v modifier) (.createBinding w modifier)

/-! ## Carrying out -/

theorem edit_alike_of_isPlain {c : Call Query} (h : c.isPlain = true) :
    σ.Edits c.edit c.edit := by
  cases c with
  | act a => exact Edit.act_alike a
  | table name aliasName => exact Edit.table_alike name aliasName
  | tableOf db name aliasName =>
    exact .bind (Edit.change_alike fun _ _ _ => rfl) fun _ => Edit.table_alike name aliasName
  | actOn a name aliasName =>
    exact .bind (Edit.act_alike a) fun _ => Edit.table_alike name aliasName
  | deleteFromTables names aliasName => exact Edit.deleteFromTables_alike names aliasName
  | connective c => exact Edit.connective_alike c
  | comparisonMethod word => exact Edit.connective_alike (Edit.connectiveOf? word)
  | insertInto | database | asName | setRaw | clearConditions | orderBy | groupBy | distinct
  | limit | boundParameters | debug => exact Edit.change_alike fun _ _ _ => rfl
  | _ => cases h

theorem edit_alike {c d : Call Query} (h : c.Alike σ (Query.Alike σ) d) :
    σ.Edits c.edit d.edit := by
  cases h with
  | plain c h => exact edit_alike_of_isPlain h
  | insertFields mode h =>
    exact .bind (Edit.change_alike fun _ _ _ => rfl) fun _ => Edit.setFields_alike h none
  | fromSubquery h aliasName => exact Edit.fromSubquery_alike h aliasName
  | columns h => exact Edit.columns_alike h
  | selectColumns h => exact .bind (Edit.act_alike _) fun _ => Edit.columns_alike h
  | addColumn h unique => exact Edit.addColumn_alike h unique
  | set column h modifier => exact Edit.set_alike column h modifier
  | setFields h modifier => exact Edit.setFields_alike h modifier
  | addRow h => exact Edit.addRow_alike h
  | addRowValues h => exact Edit.addRowValues_alike h
  | addCondition h hvw operator modifier =>
    exact Edit.addCondition_alike h hvw operator modifier
  | between field hlow hhigh modifier => exact Edit.between_alike field hlow hhigh modifier
  | inRange field hlow hhigh => exact Edit.inRange_alike field hlow hhigh
  | join kind h => exact Edit.join_alike kind h
  | insertBinding name h => exact Edit.insertBinding_alike name h
  | createBinding h modifier =>
    exact .bind (Edit.createBinding_alike h modifier) fun _ => .pure ()

/-- **Alike calls run in lockstep.** They succeed or fail together, with the same text or the same
failure, and leave alike queries behind. -/
theorem run_alike {c d : Call Query} (h : c.Alike σ (Query.Alike σ) d) :
    σ.Edits c.run d.run := by
  have hedit := edit_alike h
  cases h with
  | createBinding h modifier =>
    exact .bind (Edit.createBinding_alike h modifier) fun text => .pure (some text)
  | plain c h =>
    cases c with
    | createBinding => cases h
    | _ => exact .bind hedit fun _ => .pure none
  | _ => exact .bind hedit fun _ => .pure none

/-! ## Names of queries -/

section Resolve

variable {R : Type} {F : R → R → Prop} {find find' : Q → Option R}

mutual

theorem resolveCondition_alike (hfind : ∀ q, Option.Rel F (find q) (find' q)) :
    {c d : Condition Q} → c.Alike σ Eq d →
      Option.Rel (Condition.Alike σ F) (resolveCondition find c) (resolveCondition find' d)
  | .raw sql, _, .raw _ => .some (.raw sql)
  | .fields _, _, .fields h => .some (.fields h)
  | .value v, _, .value _ => .some (.value v)
  | .query q, _, .query rfl => (hfind q).map fun _ _ h => .query h
  | .list _, _, .list h => (resolveItems_alike hfind h).map fun _ _ h => .list h

theorem resolveItems_alike (hfind : ∀ q, Option.Rel F (find q) (find' q)) :
    {cs ds : List (Condition Q)} → List.Forall₂ (Condition.Alike σ Eq) cs ds →
      Option.Rel (List.Forall₂ (Condition.Alike σ F)) (resolveItems find cs)
        (resolveItems find' ds)
  | [], _, .nil => .some .nil
  | _ :: _, _, .cons h hs => by
    unfold resolveItems
    refine (resolveCondition_alike hfind h).bind fun x y hxy => ?_
    exact (resolveItems_alike hfind hs).bind fun xs ys hxys => .some (.cons hxy hxys)

end

variable (hfind : ∀ q, Option.Rel F (find q) (find' q))
include hfind

theorem resolveColumn_alike {c d : Column Q} (h : c.Alike σ Eq d) :
    Option.Rel (Column.Alike σ F) (resolveColumn find c) (resolveColumn find' d) := by
  cases h with
  | name s => exact .some (.name s)
  | value h => exact .some (.value h)
  | data h modifier => exact .some (.data h modifier)
  | @query q r h =>
    subst h
    exact (hfind q).map fun _ _ h => .query h

theorem resolveColumns_alike {cs ds : List (Column Q)}
    (h : List.Forall₂ (Column.Alike σ Eq) cs ds) :
    Option.Rel (List.Forall₂ (Column.Alike σ F)) (cs.mapM (resolveColumn find))
      (ds.mapM (resolveColumn find')) :=
  Option.Rel.mapM (fun _ _ hcd => resolveColumn_alike hfind hcd) h

theorem resolveTarget_alike {t u : JoinTarget Q} (h : t.Alike Eq u) :
    Option.Rel (JoinTarget.Alike F) (resolveTarget find t) (resolveTarget find' u) := by
  cases h with
  | table name => exact .some (.table name)
  | @query q r h =>
    subst h
    exact (hfind q).map fun _ _ h => .query h

theorem resolveOptions_alike {o p : JoinOptions Q} (h : o.Alike σ Eq p) :
    Option.Rel (JoinOptions.Alike σ F) (resolveOptions find o) (resolveOptions find' p) := by
  obtain ⟨target, aliasName, on, onConnective, usingColumns, kind⟩ := o
  obtain ⟨target', aliasName', on', onConnective', usingColumns', kind'⟩ := p
  obtain ⟨hwords, htarget, hon⟩ := h
  cases hwords
  cases htarget with
  | none => exact .some ⟨rfl, .none, hon⟩
  | some ht =>
    exact (resolveTarget_alike hfind ht).map fun _ _ h => ⟨rfl, .some h, hon⟩

theorem resolveJoin_alike {j k : Join Q} (h : j.Alike σ Eq k) :
    Option.Rel (Join.Alike σ F) (resolveJoin find j) (resolveJoin find' k) := by
  cases h with
  | raw sql => exact .some (.raw sql)
  | options h => exact (resolveOptions_alike hfind h).map fun _ _ h => .options h
  | @query q r h =>
    subst h
    exact (hfind q).map fun _ _ h => .query h

/-- Where names stand for alike queries, alike calls by name are alike calls on queries. -/
theorem resolve_alike {c d : Call Q} (h : c.Alike σ Eq d) :
    Option.Rel (Call.Alike σ F) (c.resolve find) (d.resolve find') := by
  cases h with
  | plain c h =>
    cases c <;> first | exact .some (.plain _ rfl) | cases h
  | insertFields mode h => exact .some (.insertFields mode h)
  | fromSubquery h aliasName =>
    subst h
    exact (hfind _).map fun _ _ h => .fromSubquery h aliasName
  | columns h => exact (resolveColumns_alike hfind h).map fun _ _ h => .columns h
  | selectColumns h => exact (resolveColumns_alike hfind h).map fun _ _ h => .selectColumns h
  | addColumn h unique =>
    exact (resolveColumn_alike hfind h).map fun _ _ h => .addColumn h unique
  | set column h modifier => exact .some (.set column h modifier)
  | setFields h modifier => exact .some (.setFields h modifier)
  | addRow h => exact .some (.addRow h)
  | addRowValues h => exact .some (.addRowValues h)
  | addCondition h hvw operator modifier =>
    exact (resolveCondition_alike hfind h).map fun _ _ h =>
      .addCondition h hvw operator modifier
  | between field hlow hhigh modifier => exact .some (.between field hlow hhigh modifier)
  | inRange field hlow hhigh => exact .some (.inRange field hlow hhigh)
  | join kind h => exact (resolveJoin_alike hfind h).map fun _ _ h => .join kind h
  | insertBinding name h => exact .some (.insertBinding name h)
  | createBinding h modifier => exact .some (.createBinding h modifier)

end Resolve

end Call
end SqlBuilder
