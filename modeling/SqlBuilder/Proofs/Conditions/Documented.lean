import Mathlib.Logic.Function.Basic
import SqlBuilder.Proofs.Conditions.Nested
import SqlBuilder.Proofs.Session

/-!
# What the conditions of a query stand for

A query accumulates conditions call by call, and each call is documented by what it means: a
comparison of one or more fields, a group, a range. `Condition.formula` puts this down as a formula
over comparisons, one clause of the documentation at a time, and `Call.formula` does so for the
calls that add conditions. Nothing in it is about texts being joined or taken apart.

A comparison is an atom, printed with the placeholder that its value gets. Placeholders are numbered
through a session, so that printing a formula needs the number to go on with; `Numbering` hands it
through, and has no outcome where a value cannot be compared with.

`Session.record` keeps, beside a session, the formulas of each query: what the calls so far have
added, what was copied, and what is left after the conditions were removed. A query within a
condition stands for the group of all that is recorded of it, under AND if that was chosen for it
and under OR otherwise.
-/

namespace SqlBuilder

/-! ## Comparisons -/

/-- What a condition compares, or SQL that the caller wrote. -/
inductive Comparison where
  | fragment (sql : String)
  | single (field operator : String) (v : Operand) (modifier : Option String)
  | member (field keyword : String) (vs : List Operand) (modifier : Option String)
  | range (field : String) (low high : Value) (modifier : Option String)

/-- A text in which values are given the next numbers, if they can be compared with. -/
abbrev Numbering := StateT Nat Option

namespace Numbering

/-- The word for a value that has one; otherwise its placeholder, under a function if there is
one. -/
def value (v : Value) (modifier : Option String) : Numbering String := do
  match Binder.inline? v with
  | some word => return word
  | none =>
    let n ← modifyGet fun n => (n + 1, n + 1)
    return Binder.applied modifier (Binder.tokenOf n)

/-- Only a single value can be compared with. A function of its own goes before the other. -/
def operand (v : Operand) (modifier : Option String) : Numbering String :=
  match v with
  | .value v => value v modifier
  | .data v own => value v (own.or modifier)
  | .list _ | .raw _ | .object _ => failure

/-- What comes out with the numbers behind `lastId`, if anything does. -/
def outcome {α : Type} (m : Numbering α) (lastId : Nat) : List α :=
  ((m lastId).map Prod.fst).toList

end Numbering

/-- The text of a comparison. -/
def Comparison.text : Comparison → Numbering String
  | fragment sql => return sql
  | single field operator v modifier => do
    return field ++ " " ++ operator ++ " " ++ (← Numbering.operand v modifier)
  | member field keyword vs modifier => do
    let texts ← vs.mapM fun v => Numbering.operand v modifier
    return field ++ " " ++ keyword ++ " (" ++ ",".intercalate texts ++ ")"
  | range field low high modifier => do
    let low ← Numbering.value low modifier
    let high ← Numbering.value high modifier
    return field ++ " BETWEEN " ++ low ++ " AND " ++ high

namespace Operand

mutual

/-- The operands in an operand, which for a list are those in its elements. -/
def singles : Operand → List Operand
  | list items => singlesOfItems items
  | v => [v]

def singlesOfItems : List Operand → List Operand
  | [] => []
  | v :: vs => singles v ++ singlesOfItems vs

end

/-- The comparisons of a field with an operand: one, also with a list under `=` and `!=`; with a
list under another operator one for each value. -/
def comparisons (operator : String) (modifier : Option String) (field : String) :
    Operand → List Comparison
  | list items =>
    if operator = "=" then [.member field "IN" items modifier]
    else if operator = "!=" then [.member field "NOT IN" items modifier]
    else (singlesOfItems items).map fun v => .single field operator v modifier
  | v => [.single field operator v modifier]

end Operand

/-- The comparisons of fields, in order. Those behind a negation mark are under the opposite
operator. -/
def Fields.comparisons (operator : String) (modifier : Option String) :
    List (String × Operand) → List Comparison
  | [] => []
  | (field, v) :: rest =>
    if field = Fields.negationKey && v.isTrue then
      comparisons (Condition.negated operator) modifier rest
    else v.comparisons operator modifier field ++ comparisons operator modifier rest

/-- Comparisons in one group. -/
def Comparison.group (connective : Connective) (cs : List Comparison) :
    Numbering (Formula String) := do
  return .group connective ((← cs.mapM text).map .atom)

/-! ## Conditions -/

namespace Condition

variable {Q : Type} (known : Q → Option (Formula String))

mutual

/-- What a condition without a value stands for. Fields are compared all together. The elements of a
list are alternatives, or stand under AND if that word leads them. -/
def formula (operator : String) (modifier : Option String) :
    Condition Q → Numbering (Formula String)
  | raw sql => return .atom sql
  | fields f => Comparison.group .and (Fields.comparisons operator modifier f.entries)
  | query q => known q
  | value _ => failure
  | list items => do
    let members ← formulas operator modifier items
    return if leads items then .group .and members.tail else .group .or members

def formulas (operator : String) (modifier : Option String) :
    List (Condition Q) → Numbering (List (Formula String))
  | [] => return []
  | c :: cs => do
    let first ← formula operator modifier c
    return first :: (← formulas operator modifier cs)

end

/-- What a condition stands for. With a value it has the names of fields, and all comparisons are
alternatives, field by field. -/
def formulaWith (operator : String) (modifier : Option String) (c : Condition Q) :
    Option Operand → Numbering (Formula String)
  | none => c.formula known operator modifier
  | some v =>
    if c.isLiteral then
      Comparison.group .or (c.fragments.flatMap (v.comparisons operator modifier))
    else failure

/-- A condition that is no list and not the word AND. -/
def isElement : Condition Q → Bool
  | raw sql => sql ≠ Query.leadingAnd
  | list _ => false
  | fields _ | query _ | value _ => true

/-- A condition that is an element, or a list of elements, which the word AND may lead. -/
def isShallow : Condition Q → Bool
  | list items => (if leads items then items.tail else items).all isElement
  | c => c.isElement

end Condition

/-! ## Calls -/

namespace Call

variable {Q : Type} (known : Q → Option (Formula String))

/-- What a range with open ends stands for. -/
def rangeFormula (field : String) : Value → Value → Numbering (Formula String)
  | .null, .null => return .group .or []
  | low, .null => Comparison.group .or [.single field ">=" (.value low) none]
  | .null, high => Comparison.group .or [.single field "<=" (.value high) none]
  | low, high => Comparison.group .or [.range field low high none]

theorem rangeFormula_of_low (field : String) {low : Value} (h : low ≠ .null) :
    rangeFormula field low .null = Comparison.group .or [.single field ">=" (.value low) none] := by
  cases low with
  | null => exact absurd rfl h
  | _ => rfl

theorem rangeFormula_of_high (field : String) {high : Value} (h : high ≠ .null) :
    rangeFormula field .null high =
      Comparison.group .or [.single field "<=" (.value high) none] := by
  cases high with
  | null => exact absurd rfl h
  | _ => rfl

theorem rangeFormula_of_both (field : String) {low high : Value} (hlow : low ≠ .null)
    (hhigh : high ≠ .null) :
    rangeFormula field low high = Comparison.group .or [.range field low high none] := by
  cases low with
  | null => exact absurd rfl hlow
  | _ =>
    cases high with
    | null => exact absurd rfl hhigh
    | _ => rfl

/-- What the conditions that a call adds stand for. -/
def formula : Call Q → Numbering (Formula String)
  | addCondition c v operator modifier => c.formulaWith known (operator.getD "=") modifier v
  | between field low high modifier => Comparison.group .or [.range field low high modifier]
  | inRange field low high => rangeFormula field low high
  | _ => failure

/-- The formulas of a query after a call, with the numbers behind `lastId`. -/
def recorded (lastId : Nat) (before : List (Formula String)) : Call Q → List (Formula String)
  | clearConditions => []
  | c => before ++ (c.formula known).outcome lastId

/-- A condition that is given without a value is shallow. -/
def isShallow : Call Q → Bool
  | addCondition c none _ _ => c.isShallow
  | _ => true

end Call

/-! ## Sessions -/

/-- What is recorded of each query. -/
abbrev Record := String → List (Formula String)

/-- The command reads no snapshot, and what it adds as a condition without a value is shallow. -/
def Command.isShallow : Command → Bool
  | .create _ how => !how.readsState
  | .call _ c => c.isShallow
  | _ => true

namespace Session

/-- What a query stands for as a condition. -/
def known (s : Session) (r : Record) (name : String) : Option (Formula String) :=
  (s.queries.get? name).map fun q =>
    .group (if q.connective = some .and then .and else .or) (r name)

/-- The record after a command. -/
def recordStep (s : Session) (r : Record) : Command → Record
  | .create name (.copy other) =>
    if (s.queries.get? other).isSome then Function.update r name (r other) else r
  | .create name _ => Function.update r name []
  | .call name c =>
    if (s.queries.get? name).isSome then
      Function.update r name (c.recorded (s.known r) s.lastId (r name))
    else r
  | _ => r

/-- The record after a script. -/
def record (s : Session) (r : Record) : List Command → Record
  | [] => r
  | c :: cs => (s.step c).2.record (s.recordStep r c) cs

end Session
end SqlBuilder
