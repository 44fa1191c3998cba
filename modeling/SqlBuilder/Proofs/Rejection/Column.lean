import Mathlib.Control.Monad.Basic
import SqlBuilder.Session

/-!
# Refused columns

A column is refused for what it is, whatever query it is added to: null and truth values are no
columns, and a query that stands for one needs a source and exactly one column of its own
(`Column.refusal?`). A refused column binds nothing and draws no number.

The list that stands for all columns gives way before the column is looked at. A query that chose
its columns is therefore left exactly as it was, while one that never did is left without any
(`Call.refused_column`), and what it then selects is nothing (`Session.lostStar_selects_nothing`).
-/

namespace SqlBuilder

namespace Column

/-- Why a column is refused, if it is. -/
def refusal? : Column Query → Option Failure
  | value .null => some (.misfit (.column Value.null.kind))
  | value (.bool b) => some (.misfit (.column (Value.bool b).kind))
  | query q =>
    if !isSingle q then some (.missing .singleColumn)
    else if !q.hasSource then some (.missing .subqueryTable)
    else none
  | name _ | value _ | data _ _ => none

/-- A refused column is not written and touches nothing; any other is written. -/
theorem text_cases (c : Column Query) (b : Binder) :
    (∃ f, c.refusal? = some f ∧ c.text b = (.error f, b)) ∨
      (c.refusal? = none ∧ ∃ text e, c.text b = (.ok text, e)) := by
  cases c with
  | name s | data v modifier => exact .inr ⟨rfl, _, _, rfl⟩
  | value v =>
    cases v with
    | null | bool _ => exact .inl ⟨_, rfl, rfl⟩
    | int _ | float _ | text _ | time _ => exact .inr ⟨rfl, _, _, rfl⟩
  | query q =>
    by_cases hsingle : isSingle q
    · by_cases hsource : q.hasSource
      · refine .inr ⟨by simp [refusal?, hsingle, hsource], ?_⟩
        simp only [text, hsingle, Query.embed, hsource]
        exact ⟨_, _, rfl⟩
      · refine .inl ⟨.missing .subqueryTable, by simp [refusal?, hsingle, hsource], ?_⟩
        simp only [text, hsingle, Query.embed, hsource]
        rfl
    · refine .inl ⟨.missing .singleColumn, by simp [refusal?, hsingle], ?_⟩
      simp only [text, hsingle]
      rfl

end Column

/-- The query without the list that stands for all columns. -/
def Query.withoutAll (q : Query) : Query := if q.hasAllColumns then { q with columns := [] } else q

/-- Adding a column fails if the column is refused, after the list of all columns is gone. -/
theorem Edit.addColumn_cases (c : Column Query) (unique : Bool) (d : Draft) :
    (∃ f, c.refusal? = some f ∧
        addColumn c unique d = (.error f, { d with query := d.query.withoutAll })) ∨
      (c.refusal? = none ∧ ∃ e, addColumn c unique d = (.ok (), e)) := by
  have hleave : leaveAllColumns d = (.ok (), { d with query := d.query.withoutAll }) := rfl
  rw [addColumn, bind_of_ok hleave, write_bind]
  rcases c.text_cases (Draft.binder { d with query := d.query.withoutAll }) with
    ⟨f, hf, htext⟩ | ⟨hnone, text, b, htext⟩
  · exact .inl ⟨f, hf, by rw [htext]; rfl⟩
  · exact .inr ⟨hnone, _, by rw [htext]; rfl⟩

namespace Call

/-- **A refused column leaves a chosen column list alone.** Adding a column fails exactly if the
column is one of those that are refused, with the failure that belongs to it. A query that chose
its columns is then what it was, with its bindings, and no number was drawn. Otherwise the list
that stands for all columns is empty afterwards, and everything else is what it was. -/
theorem refused_column (c : Column Query) (unique : Bool) (d : Draft) :
    (∀ f, (∃ e, (addColumn c unique).run d = (.error f, e)) ↔ c.refusal? = some f) ∧
      ∀ f e, (addColumn c unique).run d = (.error f, e) →
        (d.query.hasAllColumns = false → e = d) ∧
          (d.query.hasAllColumns = true → e = { d with query := { d.query with columns := [] } }) := by
  rcases Edit.addColumn_cases c unique d with ⟨f, hf, hedit⟩ | ⟨hnone, e, hedit⟩
  · have hrun : (addColumn c unique).run d =
        (.error f, { d with query := d.query.withoutAll }) := bind_of_error hedit
    rw [hrun, hf]
    refine ⟨fun g => ⟨?_, ?_⟩, ?_⟩
    · rintro ⟨_, h⟩
      rw [Except.error.inj (Prod.mk.inj h).1]
    · rintro h
      exact ⟨_, by rw [Option.some.inj h]⟩
    · rintro g e h
      obtain ⟨-, rfl⟩ := Prod.mk.inj h
      exact ⟨fun hall => by simp [Query.withoutAll, hall],
        fun hall => by simp [Query.withoutAll, hall]⟩
  · have hrun : (addColumn c unique).run d = (.ok none, e) := bind_of_ok hedit
    rw [hrun, hnone]
    refine ⟨fun f => ⟨?_, ?_⟩, fun _ _ h => nomatch h⟩
    · rintro ⟨_, ⟨⟩⟩
    · rintro ⟨⟩

/-- A query that chose its columns, with a value bound for one of them. -/
def chosenColumns : Draft :=
  ((addColumn (.value (.int 5)) false).run
    ⟨{ action := some .select, tableName := some "t", columns := ["id"] }, 0, []⟩).2

theorem refused_column_chosenColumns :
    chosenColumns.query.hasAllColumns = false ∧
      (addColumn (.value (.bool true)) true).run chosenColumns =
        (.error (.misfit (.column "boolean")), chosenColumns) ∧
      chosenColumns.query.compile = .ok ⟨"SELECT id, ? FROM `t`", [.int 5]⟩ := by
  obtain ⟨hfails, hkeeps⟩ := refused_column (.value (.bool true)) true chosenColumns
  obtain ⟨e, he⟩ := (hfails (.misfit (.column "boolean"))).2 rfl
  have hchosen : chosenColumns.query.hasAllColumns = false := by decide +kernel
  have hsame : e = chosenColumns := (hkeeps _ _ he).1 hchosen
  exact ⟨hchosen, hsame ▸ he, by decide +kernel⟩

end Call

namespace Session

/-- Null is refused as a column of a query that never chose its columns. -/
def lostStar : List Command :=
  [.create "q" (.acting .select), .call "q" (.table "t" none),
    .call "q" (.addColumn (.value .null) false)]

/-- The statement was one for all columns and becomes one for none. -/
theorem lostStar_selects_nothing :
    ((run {} (lostStar.take 2)).2.queries.get? "q").map Query.compile =
        some (.ok ⟨"SELECT * FROM `t`", []⟩) ∧
      ((run {} (lostStar.take 2)).2.queries.get? "q").map (fun q =>
        ((Call.addColumn (.value .null) false).run ⟨q, 0, []⟩).1) =
          some (.error (.misfit (.column "null"))) ∧
      ((run {} lostStar).2.queries.get? "q").map Query.compile =
        some (.ok ⟨"SELECT  FROM `t`", []⟩) := by
  decide +kernel

end Session
end SqlBuilder
