import SqlBuilder.Call

/-!
# What a call leaves as it was

A call touches some parts of the query it is made on: those it is about, and the bindings if it
writes a fragment (`Call.touched`). Everything else stays as it was, whether the call succeeds or
fails on the way (`Call.run_frame`). So what can be told of a query without looking at these parts
is the same before and after the call (`Call.leaves_run`).

The conditions of a query are an instance: of all calls only four kinds touch them
(`Call.isCondition`).
-/

namespace SqlBuilder

/-! ## What an edit leaves -/

namespace Edit

variable {α β γ : Type} {part : Query → γ}

/-- The edit leaves this part of the query as it is. -/
def Leaves (part : Query → γ) (e : Edit α) : Prop := ∀ d, part (e d).2.query = part d.query

theorem leaves_pure (a : α) : Leaves part (pure a : Edit α) := fun _ => rfl

theorem leaves_throw (f : Failure) : Leaves part (throw f : Edit α) := fun _ => rfl

theorem leaves_bind {e : Edit α} {next : α → Edit β} (h : Leaves part e)
    (hnext : ∀ a, Leaves part (next a)) : Leaves part (e >>= next) := by
  intro d
  rcases hd : e d with ⟨f | a, d'⟩
  · rw [bind_of_error hd]
    simpa [hd] using h d
  · rw [bind_of_ok hd, hnext a d']
    simpa [hd] using h d

theorem leaves_write (r : Render α) (h : ∀ (q : Query) b, part { q with bindings := b } = part q) :
    Leaves part (write r) := fun d => h d.query _

theorem leaves_change {f : Query → Query} (h : ∀ q, part (f q) = part q) :
    Leaves part (change f) := fun d => h d.query

/-! ### Columns and rows -/

section Columns

variable (hbindings : ∀ (q : Query) b, part { q with bindings := b } = part q)
  (hcolumns : ∀ (q : Query) cs, part { q with columns := cs } = part q)
include hcolumns

theorem leaves_leaveAllColumns : Leaves part leaveAllColumns :=
  leaves_change fun q => by
    split
    · exact hcolumns q _
    · rfl

include hbindings in
theorem leaves_addColumn (c : Column Query) (unique : Bool) : Leaves part (addColumn c unique) :=
  leaves_bind (leaves_leaveAllColumns hcolumns) fun _ => leaves_bind (leaves_write _ hbindings)
    fun text => leaves_change fun q => by
      split
      · rfl
      · exact hcolumns q _

include hbindings in
theorem leaves_columns (cs : List (Column Query)) : Leaves part (columns cs) := by
  have hadd : Leaves part (addColumns cs) := by
    induction cs with
    | nil => exact leaves_pure ()
    | cons c cs ih => exact leaves_bind (leaves_addColumn hbindings hcolumns c false) fun _ => ih
  refine leaves_bind (leaves_change fun q => hcolumns q _) fun _ => leaves_bind hadd fun _ =>
    leaves_change fun q => ?_
  split
  · exact hcolumns q _
  · rfl

variable (hrows : ∀ (q : Query) fs, part { q with rows := fs } = part q)
include hrows

theorem leaves_addRow (f : Fields) : Leaves part (addRow f) := by
  unfold addRow
  cases badCell? f.entries with
  | some column => exact leaves_throw _
  | none =>
    refine leaves_bind (leaves_leaveAllColumns hcolumns) fun _ => leaves_change fun q => ?_
    exact (hrows { q with columns := withNames q.columns f.keys } _).trans (hcolumns q _)

theorem leaves_addRowValues (vs : List Operand) : Leaves part (addRowValues vs) := by
  refine leaves_bind (fun _ => rfl) fun d => leaves_bind ?_ fun _ =>
    leaves_addRow hcolumns hrows _
  unfold require
  split
  · exact leaves_pure ()
  · exact leaves_throw _

end Columns

/-! ### Assignments -/

section Assignments

variable (hbindings : ∀ (q : Query) b, part { q with bindings := b } = part q)
  (hassignments : ∀ (q : Query) ts places,
    part { q with assignments := ts, assignedAt := places } = part q)
include hbindings hassignments

theorem leaves_set (column : String) (v : Operand) (modifier : Option String) :
    Leaves part (set column v modifier) := by
  refine leaves_bind (leaves_write _ hbindings) fun text => leaves_change fun q => ?_
  unfold putAssignment
  split
  · exact hassignments q _ _
  · exact hassignments q _ _

theorem leaves_setFields (f : Fields) (modifier : Option String) :
    Leaves part (setFields f modifier) := by
  unfold setFields
  induction f.entries with
  | nil => exact leaves_pure ()
  | cons e es ih =>
    exact leaves_bind (leaves_set hbindings hassignments e.1 e.2 modifier) fun _ => ih

end Assignments

/-! ### Conditions -/

section Conditions

variable (hbindings : ∀ (q : Query) b, part { q with bindings := b } = part q)
  (hconditions : ∀ (q : Query) cs, part { q with conditions := cs } = part q)
include hbindings hconditions

theorem leaves_addCondition (c : Condition Query) (v : Option Operand)
    (operator modifier : Option String) : Leaves part (addCondition c v operator modifier) :=
  leaves_bind (leaves_write _ hbindings) fun _ => leaves_change fun q => hconditions q _

theorem leaves_between (field : String) (low high : Value) (modifier : Option String) :
    Leaves part (between field low high modifier) :=
  leaves_bind (leaves_write _ hbindings) fun _ => leaves_bind (leaves_write _ hbindings) fun _ =>
    leaves_addCondition hbindings hconditions _ _ _ _

theorem leaves_inRange (field : String) (low high : Value) :
    Leaves part (inRange field low high) := by
  unfold inRange
  split
  · exact leaves_pure ()
  · exact leaves_addCondition hbindings hconditions _ _ _ _
  · exact leaves_addCondition hbindings hconditions _ _ _ _
  · exact leaves_between hbindings hconditions _ _ _ _

end Conditions

end Edit

/-! ## Parts of a query -/

namespace Query

/-- A part of a query that calls touch as a whole. -/
inductive Part where
  | action
  | insertMode
  /-- The table, its database and the alias. -/
  | table
  | subquery
  | asName
  | columns
  | rows
  | conditions
  | connective
  | assignments
  | joins
  | orderBy
  | groupBy
  | distinct
  | limit
  | bindings
  | boundParameters
  | debug

/-- The query with nothing in this part. -/
def erase : Part → Query → Query
  | .action, q => { q with action := none }
  | .insertMode, q => { q with insertMode := .insert }
  | .table, q => { q with database := none, tableName := none, aliasName := none }
  | .subquery, q => { q with subquery := none }
  | .asName, q => { q with asName := none }
  | .columns, q => { q with columns := [] }
  | .rows, q => { q with rows := [] }
  | .conditions, q => { q with conditions := [] }
  | .connective, q => { q with connective := none }
  | .assignments, q => { q with assignments := [], assignedAt := .empty }
  | .joins, q => { q with joins := [] }
  | .orderBy, q => { q with orderBy := [] }
  | .groupBy, q => { q with groupBy := [] }
  | .distinct, q => { q with distinct := false }
  | .limit, q => { q with limit := none }
  | .bindings, q => { q with bindings := .empty }
  | .boundParameters, q => { q with boundParameters := true }
  | .debug, q => { q with debug := false }

/-- The query with nothing in any of these parts. -/
def without (ps : List Part) (q : Query) : Query := ps.foldr erase q

end Query

/-! ## What a call leaves -/

namespace Call

/-- The parts of the query that the call is about. -/
def touched {Q : Type} : Call Q → List Query.Part
  | act _ => [.action]
  | insertInto _ => [.action, .insertMode]
  | insertFields _ _ => [.action, .insertMode, .assignments, .bindings]
  | table _ _ | tableOf _ _ _ | database _ => [.table]
  | actOn _ _ _ => [.action, .table]
  | deleteFromTables _ _ => [.action, .table, .columns, .bindings]
  | asName _ => [.asName]
  | fromSubquery _ _ => [.subquery, .bindings]
  | columns _ | addColumn _ _ => [.columns, .bindings]
  | selectColumns _ => [.action, .columns, .bindings]
  | setRaw _ => [.assignments]
  | set _ _ _ | setFields _ _ => [.assignments, .bindings]
  | addRow _ | addRowValues _ => [.columns, .rows]
  | clearConditions => [.conditions]
  | addCondition _ _ _ _ | between _ _ _ _ | inRange _ _ _ => [.conditions, .bindings]
  | connective _ | comparisonMethod _ => [.connective]
  | join _ _ => [.joins, .bindings]
  | orderBy _ => [.orderBy]
  | groupBy _ => [.groupBy]
  | distinct _ => [.distinct]
  | limit _ _ => [.limit]
  | boundParameters _ => [.boundParameters]
  | debug _ => [.debug]
  | insertBinding _ _ | createBinding _ _ => [.bindings]

/-- A call fails as its edit fails, and what it hands out makes no difference to the query. -/
theorem run_cases (c : Call Query) (d : Draft) :
    (∃ f d', c.edit d = (.error f, d') ∧ c.run d = (.error f, d')) ∨
      ∃ text d', c.edit d = (.ok (), d') ∧ c.run d = (.ok text, d') := by
  have hreturn (e : Edit Unit) :
      (∃ f d', e d = (.error f, d') ∧
          (do e; return none : Edit (Option String)) d = (.error f, d')) ∨
        ∃ text d', e d = (.ok (), d') ∧
          (do e; return none : Edit (Option String)) d = (.ok text, d') := by
    rcases he : e d with ⟨f | a, d'⟩
    · exact .inl ⟨f, d', rfl, bind_of_error he⟩
    · exact .inr ⟨none, d', rfl, bind_of_ok he⟩
  cases c with
  | createBinding _ _ => exact .inr ⟨_, _, rfl, rfl⟩
  | _ => exact hreturn _

theorem run_snd (c : Call Query) (d : Draft) : (c.run d).2 = (c.edit d).2 := by
  rcases c.run_cases d with ⟨f, d', hedit, hrun⟩ | ⟨text, d', hedit, hrun⟩
  · rw [hedit, hrun]
  · rw [hedit, hrun]

theorem edit_frame (c : Call Query) : c.edit.Leaves (Query.without c.touched) := by
  cases c with
  | insertFields mode f =>
    exact Edit.leaves_bind (Edit.leaves_change fun _ => rfl) fun _ =>
      Edit.leaves_setFields (fun _ _ => rfl) (fun _ _ _ => rfl) f none
  | tableOf _ _ _ | actOn _ _ _ =>
    exact Edit.leaves_bind (Edit.leaves_change fun _ => rfl) fun _ =>
      Edit.leaves_change fun _ => rfl
  | deleteFromTables names aliasName =>
    refine Edit.leaves_bind (Edit.leaves_change fun _ => rfl) fun _ => ?_
    cases names with
    | nil => exact Edit.leaves_throw _
    | cons first rest =>
      cases aliasName with
      | none => exact Edit.leaves_columns (fun _ _ => rfl) (fun _ _ => rfl) _
      | some a =>
        exact Edit.leaves_bind (Edit.leaves_change fun _ => rfl) fun _ =>
          Edit.leaves_columns (fun _ _ => rfl) (fun _ _ => rfl) _
  | fromSubquery _ _ | join _ _ =>
    exact Edit.leaves_bind (Edit.leaves_write _ fun _ _ => rfl) fun _ =>
      Edit.leaves_change fun _ => rfl
  | columns cs => exact Edit.leaves_columns (fun _ _ => rfl) (fun _ _ => rfl) cs
  | selectColumns cs =>
    exact Edit.leaves_bind (Edit.leaves_change fun _ => rfl) fun _ =>
      Edit.leaves_columns (fun _ _ => rfl) (fun _ _ => rfl) cs
  | addColumn column unique =>
    exact Edit.leaves_addColumn (fun _ _ => rfl) (fun _ _ => rfl) column unique
  | set column v modifier =>
    exact Edit.leaves_set (fun _ _ => rfl) (fun _ _ _ => rfl) column v modifier
  | setFields f modifier =>
    exact Edit.leaves_setFields (fun _ _ => rfl) (fun _ _ _ => rfl) f modifier
  | addRow f => exact Edit.leaves_addRow (fun _ _ => rfl) (fun _ _ => rfl) f
  | addRowValues vs => exact Edit.leaves_addRowValues (fun _ _ => rfl) (fun _ _ => rfl) vs
  | addCondition condition v operator modifier =>
    exact Edit.leaves_addCondition (fun _ _ => rfl) (fun _ _ => rfl) condition v operator modifier
  | between field low high modifier =>
    exact Edit.leaves_between (fun _ _ => rfl) (fun _ _ => rfl) field low high modifier
  | inRange field low high =>
    exact Edit.leaves_inRange (fun _ _ => rfl) (fun _ _ => rfl) field low high
  | connective _ | comparisonMethod _ =>
    have hconnective (c : Option Connective) :
        (Edit.connective c).Leaves (Query.without [.connective]) :=
      Edit.leaves_change fun _ => rfl
    exact hconnective _
  | createBinding v modifier =>
    exact Edit.leaves_bind (Edit.leaves_write _ fun _ _ => rfl) fun _ => Edit.leaves_pure ()
  | _ => exact Edit.leaves_change fun _ => rfl

/-- **Frame of a call.** It touches nothing but the parts it is about. -/
theorem run_frame (c : Call Query) (d : Draft) :
    (c.run d).2.query.without c.touched = d.query.without c.touched := by
  rw [run_snd]
  exact c.edit_frame d

/-- What does not depend on the parts that a call touches is the same after the call. -/
theorem leaves_run {γ : Type} {part : Query → γ} {c : Call Query}
    (h : ∀ q : Query, part (q.without c.touched) = part q) : c.run.Leaves part := by
  intro d
  rw [← h, run_frame, h]

/-! ### Conditions -/

/-- The call is about the conditions of the query. -/
def isCondition {Q : Type} : Call Q → Bool
  | clearConditions | addCondition .. | between .. | inRange .. => true
  | _ => false

/-- A call about anything else leaves the conditions as they are. -/
theorem conditions_run {c : Call Query} (h : c.isCondition = false) (d : Draft) :
    (c.run d).2.query.conditions = d.query.conditions := by
  have hspared (q : Query) : (q.without c.touched).conditions = q.conditions := by
    cases c with
    | clearConditions | addCondition _ _ _ _ | between _ _ _ _ | inRange _ _ _ => cases h
    | _ => rfl
  exact leaves_run hspared d

end Call
end SqlBuilder
