import SqlBuilder.Proofs.Compile.ClauseOrder
import SqlBuilder.Proofs.Conditions.Solid
import SqlBuilder.Proofs.Merging.Embedding

/-!
# An update and a delete have a condition

An update or a delete without conditions does not compile. What is asked for is that there are
conditions, not what is in them, so the guard is worth as much as each of them. They are all solid
if the caller gives no blank fragment as a condition, and they stay so when marks or literals are
put in for their placeholders (`solid_fill`). A blank fragment passes the guard.
-/

namespace SqlBuilder

open Placeholder Text

/-! ## Literals are solid -/

theorem Text.exists_not_blank_toDigits (n : Nat) :
    ∃ c ∈ Nat.toDigits 10 n, isBlank c = false := by
  obtain ⟨c, cs, hcs⟩ := List.exists_cons_of_ne_nil (Nat.toDigits_ne_nil (n := n) (b := 10))
  have hc : c ∈ Nat.toDigits 10 n := hcs ▸ List.mem_cons_self
  exact ⟨c, hc, not_isBlank_of_isDigit (Nat.isDigit_of_mem_toDigits (by decide) (by decide) hc)⟩

theorem Decimal.exists_not_blank_positional (d : Decimal) :
    ∃ c ∈ d.positional, isBlank c = false := by
  unfold positional
  split
  · exact exists_not_blank_toDigits _
  · obtain ⟨c, hc, hblank⟩ := exists_not_blank_toDigits (d.digits / tenPow (_ + 1))
    refine ⟨c, ?_, hblank⟩
    simp only [withFraction]
    split
    · exact hc
    · exact List.mem_append_left _ hc

theorem solid_floatText (x : Float) : Solid (floatText x) := by
  have hsigned {negative : Bool} {text : List Char} (h : ∃ c ∈ text, isBlank c = false) :
      ∃ c ∈ BinaryNumber.signed negative text, isBlank c = false := by
    obtain ⟨c, hc, hblank⟩ := h
    refine ⟨c, ?_, hblank⟩
    cases negative
    · exact hc
    · exact List.mem_cons_of_mem _ hc
  rw [solid_iff, floatText, String.toList_ofList]
  unfold BinaryNumber.text
  split
  · exact ⟨'N', List.mem_cons_self, by decide⟩
  · exact hsigned ⟨'i', List.mem_cons_self, by decide⟩
  · exact hsigned ⟨'0', List.mem_cons_self, by decide⟩
  · exact hsigned (Decimal.exists_not_blank_positional _)

theorem solid_repr (n : Nat) : Solid n.repr := by
  rw [solid_iff, Nat.toList_repr]
  exact exists_not_blank_toDigits n

theorem Literal.solid_quote (s : String) : Solid (quote s) :=
  solid_of_mem (c := '\x27') (by simp [quote, quoteChars]) (by decide)

theorem Value.solid_literal (v : Value) : Solid v.literal := by
  cases v with
  | null => decide
  | bool b => cases b <;> decide
  | int n =>
    change Solid n.toInt.repr
    unfold Int.repr
    split
    · exact solid_repr _
    · exact (solid_repr _).append_left _
  | float x => exact solid_floatText x
  | text s => exact Literal.solid_quote s
  | time t => exact Literal.solid_quote _

/-! ## Filled texts are solid -/

namespace Placeholder

theorem exists_fill_of_mem_tokens {t : Template} {k : String} (f : String → String)
    (h : k ∈ tokens t) : ∃ before after, fill f t = before ++ f k ++ after := by
  induction t with
  | nil => cases h
  | cons p t ih =>
    cases p with
    | char c =>
      obtain ⟨before, after, hfill⟩ := ih h
      exact ⟨String.singleton c ++ before, after, by
        rw [fill_char, hfill]
        simp only [String.append_assoc]⟩
    | slot name =>
      rw [fill_slot]
      rcases List.mem_cons.1 h with rfl | h
      · exact ⟨"", fill f t, by rw [String.empty_append]⟩
      · obtain ⟨before, after, hfill⟩ := ih h
        exact ⟨f (.ofList (token name)) ++ before, after, by
          rw [hfill]
          simp only [String.append_assoc]⟩

/-- A text stays solid when solid texts are put in for its placeholders. -/
theorem solid_fill {f : String → String} {sql : String} (h : Solid sql)
    (hf : ∀ k ∈ placeholders sql, Solid (f k)) : Solid (fill f (template sql)) := by
  cases hk : placeholders sql with
  | nil => rwa [fill_of_placeholders_eq_nil hk]
  | cons k ks =>
    have hmem : k ∈ placeholders sql := hk ▸ List.mem_cons_self
    obtain ⟨before, after, hfill⟩ := exists_fill_of_mem_tokens f hmem
    rw [hfill]
    exact ((hf k hmem).append_left _).append_right _

end Placeholder

/-! ## Behind the keyword WHERE -/

theorem spaced_append_pair {parts : List String} (h : parts ≠ []) (s t : String) :
    spaced (parts ++ [s, t]) = spaced parts ++ " " ++ s ++ " " ++ t := by
  induction parts with
  | nil => exact absurd rfl h
  | cons part parts ih =>
    cases parts with
    | nil =>
      simp only [spaced, List.cons_append, List.nil_append, String.intercalate_cons_cons,
        String.intercalate_singleton, String.append_assoc]
    | cons next parts =>
      have htail := ih (List.cons_ne_nil _ _)
      simp only [spaced, List.cons_append, String.intercalate_cons_cons] at htail ⊢
      rw [htail]
      simp only [String.append_assoc]

theorem glue_connective (c : Connective) : Glue (" " ++ c.keyword ++ " ") := by
  cases c <;> decide

namespace Query

/-- The conditions as they stand in the compiled text. -/
def filledConditions (q : Query) : List String :=
  q.conditions.map fun s => fill q.standIn (template s)

theorem exists_statementText {q : Query} {a : Action} (h : a = .update ∨ a = .delete) :
    ∃ front, q.statementText a = front ++ " WHERE " ++ q.conditionText := by
  have hword (front : String) : front ++ " " ++ "WHERE" ++ " " ++ q.conditionText =
      front ++ " WHERE " ++ q.conditionText := by
    have hkeyword : " WHERE " = " " ++ "WHERE" ++ " " := by decide
    rw [hkeyword]
    simp only [String.append_assoc]
  rcases h with rfl | rfl
  · refine ⟨spaced (["UPDATE", q.source] ++ q.joins ++ ["SET", listed q.assignments]), ?_⟩
    rw [← hword, ← spaced_append_pair (by simp)]
    simp [statementText, updateParts]
  · refine ⟨spaced (["DELETE"] ++ q.chosenColumns ++ ["FROM", q.source] ++ q.joins), ?_⟩
    rw [← hword, ← spaced_append_pair (by simp)]
    simp [statementText, deleteParts]

/-- An update or a delete that compiles ends in its conditions. -/
theorem exists_compile_eq {q : Query} {a : Action} {c : Compiled} (ha : q.action = some a)
    (hup : a = .update ∨ a = .delete) (hc : q.compile = .ok c) :
    q.conditions ≠ [] ∧ q.Stores (placeholders q.conditionText) ∧
      ∃ front, c.query = front ++ " WHERE " ++
        (" " ++ (q.connective.getD .and).keyword ++ " ").intercalate q.filledConditions := by
  have hq : q.Complete a := complete_of_compile ha (fun h => by simp [h] at hup) hc
  obtain ⟨front, hfront⟩ := exists_statementText (q := q) hup
  rw [hq.compile_eq, resolve_eq_ok_iff, hfront] at hc
  obtain ⟨hstores, rfl⟩ := hc
  refine ⟨?_, fun t ht => hstores t ?_, fill q.standIn (template front), ?_⟩
  · rcases hup with rfl | rfl
    · exact hq.clauses.2
    · exact hq.clauses
  · rw [placeholders_glue (by decide)]
    exact List.mem_append_right _ ht
  · rw [filledConditions, ← fill_intercalate (glue_connective _)]
    exact fill_glue (by decide) _ _ _

/-- What stands for a stored value is solid. -/
theorem solid_standIn {q : Query} {t : String} (h : (q.bindings.get? t).isSome) :
    Solid (q.standIn t) := by
  unfold standIn
  split
  · decide
  · obtain ⟨v, hv⟩ := Option.isSome_iff_exists.1 h
    rw [hv]
    exact v.solid_literal

end Query

namespace Session

/-- **No update and no delete goes out without a condition.** Let a script read no snapshot and give
no blank fragment as a condition. If an update or a delete compiles, with bound parameters or
without, then its text ends in the keyword WHERE and one condition or more under their connective,
and none of them is blank, neither as it was added nor as it stands in the compiled text. -/
theorem updates_have_conditions {s : Session} (hs : s.queries = .empty) {cs : List Command}
    (hcs : ∀ c ∈ cs, c.GivesSolid) {name : String} {q : Query}
    (hq : (s.run cs).2.queries.get? name = some q) {a : Action} (ha : q.action = some a)
    (hup : a = .update ∨ a = .delete) {c : Compiled} (hc : q.compile = .ok c) :
    ∃ front first rest, q.filledConditions = first :: rest ∧
      c.query = front ++ " WHERE " ++
        (" " ++ (q.connective.getD .and).keyword ++ " ").intercalate (first :: rest) ∧
      (∀ f ∈ first :: rest, isBlankText f = false) ∧ ∀ f ∈ q.conditions, isBlankText f = false := by
  have hnone : s.SolidConditions := fun name q hq => by
    rw [hs] at hq
    cases hq
  have hsolid : Condition.AllSolid q.conditions := solidConditions_run hnone hcs name q hq
  obtain ⟨hne, hstores, front, hquery⟩ := Query.exists_compile_eq ha hup hc
  obtain ⟨first, rest, hcons⟩ : ∃ first rest, q.filledConditions = first :: rest :=
    List.exists_cons_of_ne_nil fun hnil => hne (List.map_eq_nil_iff.1 hnil)
  refine ⟨front, first, rest, hcons, hcons ▸ hquery, ?_, hsolid⟩
  rw [← hcons, Query.filledConditions, List.forall_mem_map]
  intro f hf
  refine solid_fill (hsolid f hf) fun k hk => Query.solid_standIn (hstores k ?_)
  rw [Query.placeholders_conditionText]
  exact List.mem_flatMap.2 ⟨f, hf, hk⟩

/-- A delete under two conditions, one of them on a list of values. -/
def deleteSome : List Command :=
  [.create "q" (.actingOn .delete "t"),
    .call "q" (Call.whereEq (.raw "a") (.list [.value (.int 1)])),
    .call "q" (Call.whereClause (.list [.raw "b = 2", .raw "c = 3"]))]

theorem deleteSome_guarded : ∃ q c, (run {} deleteSome).2.queries.get? "q" = some q ∧
    q.action = some .delete ∧ q.compile = .ok c ∧
      c = ⟨"DELETE FROM `t` WHERE a IN (?) AND (b = 2 OR c = 3)", [.int 1]⟩ ∧
        ∃ front first rest, q.filledConditions = first :: rest ∧
          c.query = front ++ " WHERE " ++
            (" " ++ (q.connective.getD .and).keyword ++ " ").intercalate (first :: rest) ∧
          (∀ f ∈ first :: rest, isBlankText f = false) ∧
            ∀ f ∈ q.conditions, isBlankText f = false := by
  have h : ((run {} deleteSome).2.queries.get? "q").map (fun q => (q.action, q.compile)) =
      some (some .delete,
        .ok ⟨"DELETE FROM `t` WHERE a IN (?) AND (b = 2 OR c = 3)", [.int 1]⟩) := by decide +kernel
  obtain ⟨q, hq, h⟩ := Option.map_eq_some_iff.1 h
  obtain ⟨ha, hc⟩ := Prod.mk.inj h
  have hsolid : ∀ c ∈ deleteSome, c.GivesSolid := by decide
  exact ⟨q, _, hq, ha, hc, rfl,
    updates_have_conditions (s := {}) rfl hsolid hq ha (.inr rfl) hc⟩

/-- A delete whose only condition is a blank. -/
def deleteBlank : List Command :=
  [.create "q" (.actingOn .delete "t"), .call "q" (Call.whereClause (.raw " "))]

/-- The blank is a condition to the guard. -/
theorem deleteBlank_passes : ∃ q, (run {} deleteBlank).2.queries.get? "q" = some q ∧
    q.action = some .delete ∧ q.compile = .ok ⟨"DELETE FROM `t` WHERE  ", []⟩ ∧
      q.conditions = [" "] ∧ isBlankText " " = true := by
  have h : ((run {} deleteBlank).2.queries.get? "q").map
      (fun q => (q.action, q.compile, q.conditions)) =
        some (some .delete, .ok ⟨"DELETE FROM `t` WHERE  ", []⟩, [" "]) := by decide +kernel
  obtain ⟨q, hq, h⟩ := Option.map_eq_some_iff.1 h
  simp only [Prod.mk.injEq] at h
  exact ⟨q, hq, h.1, h.2.1, h.2.2, by decide⟩

end Session
end SqlBuilder
