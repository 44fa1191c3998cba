import SqlBuilder.Bindings
import SqlBuilder.Failure
import SqlBuilder.Operand

/-!
# Binding values while a fragment is written

Writing a fragment of a statement touches nothing of the statement but its bindings. Besides them
it draws on one counter, shared by all statements of a session, which makes every generated name
new, and it may leave notes. `Binder` holds these three, and `Render α` is a computation on
them that yields an `α` or fails; what a failed one has bound and counted stays.

**Inline words.** Truth values and null are never bound: they are written into the fragment.
-/

namespace SqlBuilder

/-- A note on bindings that a fragment took over from another statement. -/
inductive Note where
  | subquery (count : Nat)
  | conditions (count : Nat)
deriving DecidableEq, Repr

/-- What writing a fragment reads and changes. -/
structure Binder where
  bindings : Bindings
  /-- The number of names generated so far. It is unbounded, and stands for a counter of 64 bits as
  long as fewer than 2^64 names are generated; such a counter would begin again after that. -/
  lastId : Nat
  /-- The latest note comes last. -/
  notes : List Note

/-- Writing a fragment, which may fail. -/
abbrev Render := ExceptT Failure (StateM Binder)

namespace Binder

/-- A generated name: the stem and a number in lower-case hexadecimal digits. -/
def nameOf (stem : String) (n : Nat) : String := stem ++ .ofList (Nat.toDigits 16 n)

/-- The placeholder of a generated name. -/
def tokenOf (n : Nat) : String := .ofList (Placeholder.token (nameOf "binding" n).toList)

/-- The next number. -/
def nextId : StateM Binder Nat :=
  modifyGet fun b => (b.lastId + 1, { b with lastId := b.lastId + 1 })

/-- The word for a value that is never bound. -/
def inline? : Value → Option String
  | .null => some "NULL"
  | .bool true => some "TRUE"
  | .bool false => some "FALSE"
  | _ => none

/-- A text under an SQL function, if there is one. -/
def applied (modifier : Option String) (text : String) : String :=
  match modifier with
  | some m => m ++ "(" ++ text ++ ")"
  | none => text

/-- Bind a value to a new placeholder. The result is the text that stands for the value. -/
def bind (v : Value) (modifier : Option String) : StateM Binder String := do
  match inline? v with
  | some word => return word
  | none =>
    let token := tokenOf (← nextId)
    modify fun b => { b with bindings := b.bindings.insert token v.stored }
    return applied modifier token

theorem bind_of_inline {v : Value} {word : String} (h : inline? v = some word)
    (modifier : Option String) (b : Binder) : bind v modifier b = (word, b) := by
  unfold bind
  rw [h]
  rfl

theorem bind_of_not_inline {v : Value} (h : inline? v = none) (modifier : Option String)
    (b : Binder) :
    bind v modifier b =
      (applied modifier (tokenOf (b.lastId + 1)),
        { b with
          bindings := b.bindings.insert (tokenOf (b.lastId + 1)) v.stored
          lastId := b.lastId + 1 }) := by
  unfold bind
  rw [h]
  rfl

/-- Take over bindings, which replace bindings of the same key. -/
def absorb (b : Bindings) (note : Nat → Note) : StateM Binder Unit :=
  modify fun s => { s with bindings := s.bindings.merge b, notes := s.notes ++ [note b.size] }

/-- Bind an operand that has to be a single value. A tag of its own goes before the modifier. -/
def bindOperand (v : Operand) (modifier : Option String) : Render String :=
  match v with
  | .value v => bind v modifier
  | .data v own => bind v (own.or modifier)
  | .list _ | .raw _ | .object _ => throw (.misfit .operand)

end Binder
end SqlBuilder
