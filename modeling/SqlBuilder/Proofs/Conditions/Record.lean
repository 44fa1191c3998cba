import SqlBuilder.Proofs.Conditions.Follows
import SqlBuilder.Proofs.Substitution.Edit

/-!
# Conditions are printed as documented

The conditions of a query are the canonical prints of the formulas that were recorded of it. A call
about conditions adds the print of its formula, or removes all, and every other call leaves both the
conditions and the record as they are (`Call.hasFormulas_run`). What one command keeps up
(`Session.recorded_step`) a whole script does.
-/

namespace SqlBuilder

variable {α β γ : Type}

/-! ## Calls -/

/-- The conditions of the query are the prints of the formulas. -/
def Draft.HasFormulas (ts : List (Formula String)) (d : Draft) : Prop :=
  Condition.PrintsAll d.query.conditions ts

namespace Edit

/-- Adding the text that is written adds the formula that writing follows. -/
theorem push_hasFormulas {r : Render (Option String)} {m : Numbering (Formula String)}
    (h : Follows r m Condition.Prints) {ts : List (Formula String)} {d : Draft}
    (hd : d.HasFormulas ts) :
    Draft.HasFormulas (ts ++ m.outcome d.lastId) (Prod.snd ((do
      let text ← write r
      change fun q => { q with conditions := q.conditions ++ text.toList } : Edit Unit) d)) := by
  have hb := h d.binder
  change Agrees _ _ (m d.lastId) at hb
  rw [write_bind, Numbering.outcome]
  rcases hr : r d.binder with ⟨_ | text, b⟩ <;> rcases hm : m d.lastId with _ | ⟨t, n⟩ <;>
    rw [hr, hm] at hb
  · change Condition.PrintsAll d.query.conditions (ts ++ [])
    rwa [List.append_nil]
  · exact hb.elim
  · exact hb.elim
  · exact Condition.PrintsAll.append hd hb.2.toList

/-- Two fragments written one after the other are written as one. -/
theorem write_bind_write (r : Render α) (k : α → Render β) (next : β → Edit γ) :
    (write r >>= fun a => write (k a) >>= next) = write (r >>= k) >>= next := by
  have hwrite : (write r >>= fun a => write (k a)) = write (r >>= k) := by
    funext d
    rw [write_bind, write]
    rcases hr : r d.binder with ⟨f | a, b⟩
    · rw [bind_of_error hr]
    · rw [bind_of_ok hr]
      rfl
  rw [← hwrite, bind_assoc]

section Documented

variable {find? : String → Option Query} {known : String → Option (Formula String)}
  {ts : List (Formula String)} {d : Draft}

theorem addCondition_hasFormulas (hknows : Condition.Knows find? known) {c : Condition String}
    {e : Condition Query} {v : Option Operand} (hc : v = none → c.isShallow = true)
    (he : Call.resolveCondition find? c = some e) (operator modifier : Option String)
    (hd : d.HasFormulas ts) :
    Draft.HasFormulas
      (ts ++ (c.formulaWith known (operator.getD "=") modifier v).outcome d.lastId)
      (addCondition e v operator modifier d).2 :=
  push_hasFormulas (Condition.text_follows hknows hc he operator modifier) hd

theorem between_hasFormulas (field : String) (low high : Value) (modifier : Option String)
    (hd : d.HasFormulas ts) :
    Draft.HasFormulas
      (ts ++ (Comparison.group .or [.range field low high modifier]).outcome d.lastId)
      (between field low high modifier d).2 := by
  have hbetween : between field low high modifier = (do
      let text ← write (do
        let low ← Binder.bind low modifier
        let high ← Binder.bind high modifier
        Condition.text (.raw (field ++ " BETWEEN " ++ low ++ " AND " ++ high)) none none none)
      change fun q => { q with conditions := q.conditions ++ text.toList }) :=
    (congrArg (write _ >>= ·) (funext fun low => write_bind_write _ _ _)).trans
      (write_bind_write _ _ _)
  rw [hbetween]
  refine push_hasFormulas ?_ hd
  simp only [Comparison.group, List.mapM_cons, List.mapM_nil, Comparison.text, bind_assoc,
    pure_bind]
  refine (value_follows low modifier).bind fun low _ hlow =>
    (value_follows high modifier).bind fun high _ hhigh => .pure ?_
  subst hlow hhigh
  exact (Condition.printsAll_map_atom (.singleton (c := ' ') (by simp) (by decide))).combined

theorem inRange_hasFormulas (hknows : Condition.Knows find? known) (field : String)
    (low high : Value) (hd : d.HasFormulas ts) :
    Draft.HasFormulas (ts ++ (Call.rangeFormula field low high).outcome d.lastId)
      (inRange field low high d).2 := by
  have hcompare (operator : String) (v : Value) : Draft.HasFormulas
      (ts ++ (Comparison.group .or [.single field operator (.value v) none]).outcome d.lastId)
      (addCondition (.raw field) (some (.value v)) (some operator) none d).2 := by
    have hvalue : some (Operand.value v) = none → (Condition.raw (Q := String) field).isShallow :=
      fun h => absurd h (Option.some_ne_none _)
    exact addCondition_hasFormulas hknows hvalue rfl (some operator) none hd
  by_cases hlow : low = .null
  · by_cases hhigh : high = .null
    · subst hlow hhigh
      have hnothing : Condition.PrintsAll [] [.group .or []] := ⟨rfl, List.not_mem_nil⟩
      have hadded := Condition.PrintsAll.append hd hnothing
      rwa [List.append_nil] at hadded
    · rw [hlow, inRange_of_high field hhigh, Call.rangeFormula_of_high field hhigh]
      exact hcompare "<=" high
  · by_cases hhigh : high = .null
    · rw [hhigh, inRange_of_low field hlow, Call.rangeFormula_of_low field hlow]
      exact hcompare ">=" low
    · rw [inRange_of_both field hlow hhigh, Call.rangeFormula_of_both field hlow hhigh]
      exact between_hasFormulas field low high none hd

end Documented

end Edit

namespace Call

theorem isCondition_resolve {Q R : Type} {find? : Q → Option R} {c : Call Q} {e : Call R}
    (h : c.resolve find? = some e) : e.isCondition = c.isCondition := by
  cases c with
  | addCondition _ _ _ _ | fromSubquery _ _ | columns _ | selectColumns _ | addColumn _ _
  | join _ _ =>
    obtain ⟨_, -, rfl⟩ := Option.map_eq_some_iff.1 h
    rfl
  | _ =>
    cases h
    rfl

section Recorded

variable {find? : String → Option Query} {known : String → Option (Formula String)}
  {ts : List (Formula String)} {d : Draft}

theorem recorded_of_not_isCondition {c : Call String} (h : c.isCondition = false) (lastId : Nat) :
    c.recorded known lastId ts = ts := by
  cases c with
  | clearConditions | addCondition _ _ _ _ | between _ _ _ _ | inRange _ _ _ => cases h
  | _ => exact List.append_nil ts

/-- A call that names a query which does not exist records nothing. -/
theorem recorded_of_unknown (hknown : ∀ name, find? name = none → known name = none)
    {c : Call String} (h : c.resolve find? = none) (lastId : Nat) :
    c.recorded known lastId ts = ts := by
  by_cases hc : c.isCondition = false
  · exact recorded_of_not_isCondition hc lastId
  · cases c with
    | addCondition c v operator modifier =>
      have hformula := formulaWith_of_unknown hknown (operator.getD "=") modifier
        (Option.map_eq_none_iff.1 h) v lastId
      rw [recorded, formula, Numbering.outcome, hformula]
      · exact List.append_nil ts
      · exact nofun
    | clearConditions | between _ _ _ _ | inRange _ _ _ => cases h
    | _ => exact absurd rfl hc

/-- A call adds what its formula says, or removes all, and changes nothing else. -/
theorem hasFormulas_run (hknows : Condition.Knows find? known) {c : Call String} {e : Call Query}
    (hc : c.isShallow = true) (he : c.resolve find? = some e) (hd : d.HasFormulas ts) :
    Draft.HasFormulas (c.recorded known d.lastId ts) (e.run d).2 := by
  have hcondition := isCondition_resolve he
  by_cases h : c.isCondition = false
  · rw [recorded_of_not_isCondition h]
    unfold Draft.HasFormulas
    rwa [conditions_run (hcondition.trans h)]
  · rw [Bool.not_eq_false] at h
    rw [run_snd]
    cases c with
    | clearConditions =>
      cases he
      exact ⟨rfl, List.not_mem_nil⟩
    | addCondition c v operator modifier =>
      obtain ⟨f, hf, rfl⟩ := Option.map_eq_some_iff.1 he
      refine Edit.addCondition_hasFormulas hknows (fun hv => ?_) hf operator modifier hd
      subst hv
      exact hc
    | between field low high modifier =>
      cases he
      exact Edit.between_hasFormulas field low high modifier hd
    | inRange field low high =>
      cases he
      exact Edit.inRange_hasFormulas hknows field low high hd
    | _ => cases h

end Recorded

end Call

/-! ## Sessions -/

namespace Session

/-- The conditions of every query are the prints of what is recorded of it. -/
def Recorded (s : Session) (r : Record) : Prop :=
  ∀ name q, s.queries.get? name = some q → Condition.PrintsAll q.conditions (r name)

theorem Recorded.knows {s : Session} {r : Record} (h : s.Recorded r) :
    Condition.Knows s.queries.get? (s.known r) := by
  intro name
  unfold known
  split
  · rename_i hname
    rw [hname]
    rfl
  · rename_i q hname
    rw [hname]
    exact ⟨r name, h name q hname, rfl⟩

theorem recorded_create {s : Session} {r : Record} (h : s.Recorded r) (name : String)
    {how : Creation} (hhow : how.readsState = false) :
    (s.step (.create name how)).2.Recorded (s.recordStep r (.create name how)) := by
  have hrecord : s.recordStep r (.create name how) = s.recordCreation r [] name how := by
    cases how <;> rfl
  rw [hrecord]
  refine fun _ _ => recorded_creation
    (P := fun q ts => Condition.PrintsAll q.conditions ts) h hhow (fun q hq => ?_) name
  rw [hq]
  exact ⟨rfl, List.not_mem_nil⟩

theorem recorded_step {s : Session} {r : Record} (h : s.Recorded r) {c : Command}
    (hc : c.isShallow = true) : (s.step c).2.Recorded (s.recordStep r c) := by
  cases c with
  | create name how => exact recorded_create h name (Bool.not_eq_true' _ ▸ hc)
  | call name c =>
    have hknown : ∀ other, s.queries.get? other = none → s.known r other = none := by
      intro other hother
      rw [known, hother]
      rfl
    simp only [step, recordStep]
    cases hq : s.queries.get? name with
    | none => exact h
    | some q =>
      cases he : c.resolve s.queries.get? with
      | none =>
        rw [Call.recorded_of_unknown hknown he, Function.update_eq_self, ite_self]
        exact h
      | some e =>
        have hd : Draft.HasFormulas (r name) ⟨q, s.lastId, []⟩ := h name q hq
        exact fun _ _ => forall_update (P := fun q ts => Condition.PrintsAll q.conditions ts) h
          (Call.hasFormulas_run h.knows hc he hd) name
  | setDefaultBound _ | compile _ | literalText _ | state _ | equals _ _ | exec _ _ => exact h

theorem recorded_run {s : Session} {r : Record} (h : s.Recorded r) {cs : List Command}
    (hcs : ∀ c ∈ cs, c.isShallow = true) : (s.run cs).2.Recorded (s.record r cs) := by
  induction cs generalizing s r with
  | nil => exact h
  | cons c cs ih =>
    rw [List.forall_mem_cons] at hcs
    exact ih (recorded_step h hcs.1) hcs.2

/-- **Conditions are printed as documented.** Let a script read no snapshot, and let every condition
that it gives without a value be a fragment, fields, a query, or a list of these, where the word AND
is given only to lead a list. Then the conditions of every query are the canonical prints of what
was recorded of it, one after the other, and a formula without a print adds none. -/
theorem conditions_print_record {s : Session} (hs : s.queries = .empty) {cs : List Command}
    (hcs : ∀ c ∈ cs, c.isShallow = true) {name : String} {q : Query}
    (hq : (s.run cs).2.queries.get? name = some q) :
    q.conditions = Formula.printAll (s.record (fun _ => []) cs name) := by
  have hnone : s.Recorded fun _ => [] := fun name q hq => by
    rw [hs] at hq
    cases hq
  exact (recorded_run hnone hcs name q hq).1

/-- Groups within groups, in three queries. -/
def grouped : List Command :=
  [.create "inner" (.acting .select),
    .call "inner" (Call.whereEq (.list [.raw "a", .raw "b"])
      (.list [.value (.int 1), .value .null])),
    .call "inner" (Call.whereLike (.raw "c") (.list [.value (.text "x"), .value (.text "y")])),
    .create "middle" (.copy "inner"),
    .call "middle" (Call.matchAll true),
    .call "middle" (.between "d" (.int 3) (.int 4) none),
    .create "outer" (.acting .select),
    .call "outer" (Call.whereClause (.list [.raw "AND", .raw "e = 5",
      .fields ⟨[("f", .value (.int 6)), ("not", .value (.bool true)),
        ("g", .list [.value (.int 7)])]⟩,
      .query "inner", .fields ⟨[]⟩])),
    .call "outer" (Call.whereClause (.query "middle"))]

theorem grouped_printed : ∃ q, (run {} grouped).2.queries.get? "outer" = some q ∧
    q.conditions =
      ["(e = 5 AND (f = {{binding7}} AND g NOT IN ({{binding8}})) AND " ++
          "((a IN ({{binding1}},NULL) OR b IN ({{binding2}},NULL)) OR " ++
            "(c LIKE {{binding3}} OR c LIKE {{binding4}})))",
        "((a IN ({{binding1}},NULL) OR b IN ({{binding2}},NULL)) AND " ++
          "(c LIKE {{binding3}} OR c LIKE {{binding4}}) AND " ++
            "d BETWEEN {{binding5}} AND {{binding6}})"] ∧
      q.conditions = Formula.printAll (record {} (fun _ => []) grouped "outer") := by
  have h : ((run {} grouped).2.queries.get? "outer").map Query.conditions = some
      ["(e = 5 AND (f = {{binding7}} AND g NOT IN ({{binding8}})) AND " ++
          "((a IN ({{binding1}},NULL) OR b IN ({{binding2}},NULL)) OR " ++
            "(c LIKE {{binding3}} OR c LIKE {{binding4}})))",
        "((a IN ({{binding1}},NULL) OR b IN ({{binding2}},NULL)) AND " ++
          "(c LIKE {{binding3}} OR c LIKE {{binding4}}) AND " ++
            "d BETWEEN {{binding5}} AND {{binding6}})"] := by
    decide +kernel
  obtain ⟨q, hq, hconditions⟩ := Option.map_eq_some_iff.1 h
  exact ⟨q, hq, hconditions, conditions_print_record (s := {}) rfl (by decide) hq⟩

end Session
end SqlBuilder
