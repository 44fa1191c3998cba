import SqlBuilder.Proofs.Conditions.Tests
import SqlBuilder.Proofs.Substitution.Join

/-!
# The fields a join is made on

An object of fields can be the condition of a query or of a join. Either way it comes to the same
tests (`Fields.tests`), and a test to the same comparison (`FieldTest.write`), which is a field, a
sign or keyword, and the texts that its values got. There are two spellings of it, which differ in
the blanks around a list of values (`Written.inWhere`, `Written.inOn`). So the same object given to
the one call or the other binds the same values to the same placeholders
(`Call.join_fields_as_where`).

There is one exception: a text, or SQL of the caller, is the name of a column to a join and is not
bound. And of an operand that can be compared in neither place a join says so in other words.
-/

namespace SqlBuilder

/-! ## Comparisons -/

/-- A comparison with the texts that stand for its values. -/
inductive Written where
  | single (field sign text : String)
  | member (field keyword : String) (texts : List String)
deriving DecidableEq

namespace Written

/-- As a condition of a query. -/
def inWhere : Written → String
  | single field sign text => field ++ " " ++ sign ++ " " ++ text
  | member field keyword texts => field ++ " " ++ keyword ++ " (" ++ ",".intercalate texts ++ ")"

/-- As a condition of a join. -/
def inOn : Written → String
  | single field sign text => field ++ " " ++ sign ++ " " ++ text
  | member field keyword texts =>
    field ++ " " ++ keyword ++ " ( " ++ ", ".intercalate texts ++ " )"

theorem inOn_ne_empty (w : Written) : w.inOn ≠ "" := by
  cases w <;> simp [inOn]

end Written

/-- The comparison for a test: a list of values is tested for membership if the operator has a
keyword for that. -/
def FieldTest.write (t : FieldTest) : Render Written :=
  match t.operand, Condition.membership? t.operator with
  | .list items, some keyword => do
    let texts ← items.mapM fun v => Binder.bindOperand v none
    return .member t.field keyword texts
  | v, _ => do
    let text ← Binder.bindOperand v none
    return .single t.field t.operator text

/-! ## In a query -/

namespace FieldTest

theorem texts_eq {t : FieldTest} (h : (Condition.membership? t.operator).isSome) :
    t.texts none = (do return [(← t.write).inWhere]) := by
  obtain ⟨field, operator, v⟩ := t
  obtain ⟨keyword, hkeyword⟩ := Option.isSome_iff_exists.1 h
  change Condition.membership? operator = some keyword at hkeyword
  cases v with
  | list items => simp only [texts, write, Condition.compare, hkeyword, bind_assoc, pure_bind,
      Written.inWhere]
  | value _ | data _ _ | raw _ | object _ =>
    simp only [texts, write, Condition.compare, bind_assoc, pure_bind, Written.inWhere]

/-- Tests that are written one by one. -/
theorem mapM_texts_eq {ts : List FieldTest}
    (h : ∀ t ∈ ts, (Condition.membership? t.operator).isSome) :
    (do return (← ts.mapM (texts · none)).flatten) =
      (do return (← ts.mapM write).map Written.inWhere : Render (List String)) := by
  induction ts with
  | nil => rfl
  | cons t ts ih =>
    obtain ⟨ht, hts⟩ := List.forall_mem_cons.1 h
    calc (do return (← (t :: ts).mapM (texts · none)).flatten)
      _ = (do
          let w ← t.write
          let rest ← (do return (← ts.mapM (texts · none)).flatten)
          return w.inWhere :: rest) := by
        simp only [List.mapM_cons, texts_eq ht, bind_assoc, pure_bind, List.flatten_cons,
          List.singleton_append]
      _ = (do
          let w ← t.write
          let rest ← (do return (← ts.mapM write).map Written.inWhere)
          return w.inWhere :: rest) := by rw [ih hts]
      _ = (do return (← (t :: ts).mapM write).map Written.inWhere) := by
        simp only [List.mapM_cons, bind_assoc, pure_bind, List.map_cons]

end FieldTest

/-- The comparisons for the tests of an object under the equality signs. -/
def Fields.write (f : Fields) : Render (List Written) :=
  (tests "=" "!=" f.entries).mapM FieldTest.write

/-- An object adds the group of its comparisons to the conditions. -/
theorem Condition.text_fields_written (f : Fields) :
    text (.fields f) none none none =
      (do return joined .and ((← f.write).map Written.inWhere)) := by
  have hmember : ∀ t ∈ Fields.tests "=" (negated "=") f.entries,
      (membership? t.operator).isSome := by
    intro t ht
    rcases Fields.operator_of_mem_tests ht with h | h
    · rw [h]
      rfl
    · rw [h]
      rfl
  have htests := congrArg (fun r : Render (List String) => do return joined .and (← r))
    (FieldTest.mapM_texts_eq hmember)
  simp only [bind_assoc, pure_bind] at htests
  rw [text_fields, Option.getD_none, Fields.groupText]
  exact htests

/-! ## In a join -/

/-- The operand stands for something other than a value where a join is made on it. -/
def Operand.isColumn : Operand → Bool
  | value v => v.isText
  | raw _ => true
  | list _ | data _ _ | object _ => false

namespace JoinOn

/-- The equality sign of a comparison, negated or not. -/
def sign (negated : Bool) : String := if negated then "!=" else "="

/-- The keyword of a membership test, negated or not. -/
def keyword (negated : Bool) : String := if negated then "NOT IN" else "IN"

theorem membership?_sign (negated : Bool) :
    Condition.membership? (sign negated) = some (keyword negated) := by
  cases negated <;> rfl

theorem compare_akin (negated : Bool) (field : String) {v : Operand} (h : v.isColumn = false) :
    Akin (fun text w => text = w.inOn) (compare negated field v)
      (FieldTest.write ⟨field, sign negated, v⟩) := by
  have hsign : (if negated = true then " != " else " = ") = " " ++ sign negated ++ " " := by
    cases negated <;> rfl
  have hkeyword : (if negated = true then " NOT IN ( " else " IN ( ") =
      " " ++ keyword negated ++ " ( " := by
    cases negated <;> rfl
  have hsingle {r r' : Render String} (hr : Akin Eq r r') :
      Akin (fun text w => text = w.inOn)
        (do return field ++ (if negated = true then " != " else " = ") ++ (← r))
        (do return Written.single field (sign negated) (← r')) :=
    hr.map fun text text' htext => by
      rw [htext, hsign, Written.inOn]
      simp only [String.append_assoc]
  cases v with
  | list items =>
    simp only [compare, FieldTest.write, membership?_sign]
    refine (Binder.bindOperands_akin items none).map fun texts texts' htexts => ?_
    rw [htexts, hkeyword, Written.inOn, listed]
    simp only [String.append_assoc]
  | value v =>
    have hside : Akin Eq (rightSide field (.value v)) (Binder.bindOperand (.value v) none) := by
      rw [rightSide_of_not_isText field h]
      exact Binder.bindOperand_akin (.value v) none
    exact hsingle hside
  | data v own => exact hsingle (Binder.bindOperand_akin (.data v own) none)
  | object es => exact hsingle (.throw _ _)
  | raw sql => cases h

/-- A join compares the fields test by test. -/
theorem compareFields_akin (negated : Bool) {es : List (String × Operand)}
    (h : ∀ e ∈ es, e.2.isColumn = false) :
    Akin (fun texts ws => texts = ws.map Written.inOn) (compareFields negated es)
      ((Fields.tests (sign negated) "!=" es).mapM FieldTest.write) := by
  induction es generalizing negated with
  | nil => exact .pure rfl
  | cons e es ih =>
    obtain ⟨he, hes⟩ := List.forall_mem_cons.1 h
    rw [compareFields]
    cases hmark : Fields.isMark e with
    | true =>
      have hcondition : (decide (e.1 = Fields.negationKey) && e.2.isTrue) = true := hmark
      rw [if_pos hcondition, Fields.tests_cons_of_mark hmark, ← Fields.tests_self]
      exact ih true hes
    | false =>
      have hcondition : ¬ (decide (e.1 = Fields.negationKey) && e.2.isTrue) = true := by
        rw [Bool.not_eq_true]
        exact hmark
      rw [if_neg hcondition, Fields.tests_cons_of_not_mark hmark, List.mapM_cons]
      refine (compare_akin negated e.1 he).bind fun text w htext => ?_
      refine (ih negated hes).bind fun texts ws htexts => .pure ?_
      rw [htext, htexts, List.map_cons]

theorem text_fields_akin (connective : String) {f : Fields}
    (h : ∀ e ∈ f.entries, e.2.isColumn = false) :
    Akin (fun text ws => text = (" " ++ connective ++ " ").intercalate (ws.map Written.inOn))
      (text connective (.fields f)) f.write := by
  rw [text]
  refine (compareFields_akin false h).map_left fun texts ws htexts => ?_
  have hnone : ∀ text ∈ ws.map Written.inOn, decide (text ≠ "") = true := by
    intro text hmem
    obtain ⟨w, -, rfl⟩ := List.mem_map.1 hmem
    exact decide_eq_true w.inOn_ne_empty
  rw [htexts, joined, List.filter_eq_self.2 hnone]

end JoinOn

/-! ## Calls -/

/-- The query with one more join. -/
def Draft.withJoin (d : Draft) (text : String) : Draft :=
  { d with query := { d.query with joins := d.query.joins ++ [text] } }

namespace Call

/-- The text of a join on conditions, from the words for its target and the text of these. -/
def joinText (kind : Option JoinKind) (o : JoinOptions Query) (target : List String)
    (text : String) : String :=
  spaced (((kind.map JoinKind.keyword).or o.kind).toList ++ ["JOIN"] ++ target ++
    ["ON (" ++ text ++ ")"])

/-- Once the target of a join is written, its conditions are, and the join becomes a clause. -/
theorem run_join_on {o : JoinOptions Query} {on : JoinOn} (hon : o.on = some on)
    (husing : o.usingColumns = []) {d : Draft} {target : List String} {b : Binder}
    (htarget : Join.targetParts o.aliasName o.target d.binder = (.ok target, b))
    (kind : Option JoinKind) :
    (join kind (.options o)).run d =
      match on.text (o.onConnective.getD Connective.and.keyword) b with
      | (.ok text, c) => (.ok none, (d.withBinder c).withJoin (joinText kind o target text))
      | (.error f, c) => (.error f, d.withBinder c) := by
  have hlink : Join.linkParts { o with kind := (kind.map JoinKind.keyword).or o.kind } = (do
      let text ← on.text (o.onConnective.getD Connective.and.keyword)
      return ["ON (" ++ text ++ ")"]) := by
    simp only [Join.linkParts, if_pos husing, hon]
  change (Edit.join kind (.options o) >>= fun _ => pure none) d = _
  rw [Edit.join, bind_assoc, Edit.write_bind, Join.text, Join.optionsText, bind_of_ok htarget,
    hlink, bind_assoc]
  rcases htext : on.text (o.onConnective.getD Connective.and.keyword) b with ⟨f | text, c⟩
  · rw [bind_of_error htext]
  · rw [bind_of_ok htext]
    rfl

/-- **Fields in a join and in a condition.** An object whose operands are no names of columns stands
for the same comparisons where something is joined on it, once that is written, and where it is a
condition: under an equality sign before the first negation mark, and under its opposite behind it.
Either their texts can be written, and then each call puts them into its clause in its own spelling,
or both calls are refused for the shape of an operand. The same values are bound to the same
placeholders. -/
theorem join_fields_as_where {f : Fields} (hf : ∀ e ∈ f.entries, e.2.isColumn = false)
    {o : JoinOptions Query} (hon : o.on = some (.fields f))
    (hand : o.onConnective.getD "AND" = "AND") (husing : o.usingColumns = []) {d : Draft}
    {target : List String} {b : Binder}
    (htarget : Join.targetParts o.aliasName o.target d.binder = (.ok target, b))
    (kind : Option JoinKind) :
    match f.write b with
    | (.ok ws, c) =>
      (join kind (.options o)).run d = (.ok none, (d.withBinder c).withJoin
        (joinText kind o target (" AND ".intercalate (ws.map Written.inOn)))) ∧
      (whereClause (.fields f)).run (d.withBinder b) =
        (.ok none, (d.withBinder c).withClause (Condition.joined .and (ws.map Written.inWhere)))
    | (.error _, c) => ∃ w w',
      (join kind (.options o)).run d = (.error (.misfit w), d.withBinder c) ∧
      (whereClause (.fields f)).run (d.withBinder b) = (.error (.misfit w'), d.withBinder c) := by
  have hbinder : (d.withBinder b).binder = b := rfl
  have hkeyword : o.onConnective.getD Connective.and.keyword = "AND" := hand
  rw [run_join_on hon husing htarget, hkeyword, whereClause, run_addCondition, adding_apply,
    hbinder, Condition.text_fields_written]
  rcases (JoinOn.text_fields_akin "AND" hf).cases b with
    ⟨w, w', c, htext, hwrite⟩ | ⟨text, ws, c, htext, hwrite, rfl⟩
  · rw [htext, bind_of_error hwrite, hwrite]
    exact ⟨w, w', rfl, rfl⟩
  · rw [htext, bind_of_ok hwrite, hwrite]
    exact ⟨rfl, rfl⟩

/-- The books of one shelf by none of two authors. -/
def otherAuthors : Fields :=
  ⟨[("shelf", .value (.int 7)), ("not", .value (.bool true)),
    ("author", .list [.value (.text "ann"), .data (.text "BOB") (some "LOWER")])]⟩

def besideAuthors : JoinOptions Query :=
  { target := some (.table "books"), on := some (.fields otherAuthors) }

theorem join_fields_as_where_books :
    (∀ e ∈ otherAuthors.entries, e.2.isColumn = false) ∧ ∃ d : Draft,
      (join (some .left) (.options besideAuthors)).run ⟨{}, 0, []⟩ =
        (.ok none, d.withJoin ("LEFT JOIN books ON (shelf = {{binding1}} AND " ++
          "author NOT IN ( {{binding2}}, LOWER({{binding3}}) ))")) ∧
      (whereClause (.fields otherAuthors)).run ⟨{}, 0, []⟩ =
        (.ok none, d.withClause (some ("(shelf = {{binding1}} AND " ++
          "author NOT IN ({{binding2}},LOWER({{binding3}})))"))) := by
  have hvalues : ∀ e ∈ otherAuthors.entries, e.2.isColumn = false := by decide
  have hwritten : (otherAuthors.write (Draft.binder ⟨{}, 0, []⟩)).1.toOption = some
      [.single "shelf" "=" "{{binding1}}",
        .member "author" "NOT IN" ["{{binding2}}", "LOWER({{binding3}})"]] := by
    decide +kernel
  have h := join_fields_as_where hvalues (rfl : besideAuthors.on = _) rfl rfl
    (rfl : Join.targetParts _ _ (Draft.binder ⟨{}, 0, []⟩) = (.ok ["books"], _)) (some .left)
  rcases hrun : otherAuthors.write (Draft.binder ⟨{}, 0, []⟩) with ⟨f | ws, b⟩
  · rw [hrun] at hwritten
    cases hwritten
  · rw [hrun] at h hwritten
    cases hwritten
    exact ⟨hvalues, Draft.withBinder ⟨{}, 0, []⟩ b, h⟩

end Call
end SqlBuilder
