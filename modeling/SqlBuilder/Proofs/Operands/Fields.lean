import Mathlib.Data.Finset.Card
import SqlBuilder.Operand
import SqlBuilder.Proofs.Entries

/-!
# Fields in order of insertion

Fields are made step by step: one is added or replaced, a negation mark is set, or all of them are
collected at once, from pairs or from a JSON object. Beside the fields stands the list of all that
was inserted to make them (`Fields.inserted`), in which nothing is ever replaced.

The invariant is that the fields are what comes of putting this list in, pair by pair
(`Fields.step_ofPairs`, `Fields.after_eq`). So all that a look-up, the order of the names and their
number are after any steps can be read off the list (`Fields.insertion_ordered`).
-/

namespace SqlBuilder.Fields

/-! ## Making fields -/

/-- One step in making fields. -/
inductive Step where
  | insert (name : String) (v : Operand)
  | negate
  /-- Begin anew with what is collected from pairs. -/
  | collect (pairs : List (String × Operand))
  /-- Begin anew with the members of a JSON object. -/
  | convert (members : List (String × Json))

/-- Carry out one step. -/
def step (f : Fields) : Step → Fields
  | .insert name v => f.insert name v
  | .negate => f.negate
  | .collect pairs => .ofPairs pairs
  | .convert members => .ofMembers members

/-- The fields after steps that begin with none. -/
def after (steps : List Step) : Fields := steps.foldl step empty

/-- All that has been inserted to make the fields, when it was `before` until this step. -/
def Step.inserted (before : List (String × Operand)) : Step → List (String × Operand)
  | insert name v => before ++ [(name, v)]
  | negate => before ++ [("not", .value (.bool true))]
  | collect pairs => pairs
  | convert members => members.map fun m => (m.1, .ofJson m.2)

/-- All that was inserted to make the fields, one pair after the other. -/
def inserted (steps : List Step) : List (String × Operand) := steps.foldl Step.inserted []

/-! ## Fields are what was inserted -/

/-- One step puts in what it inserts. -/
theorem step_ofPairs (before : List (String × Operand)) (s : Step) :
    (ofPairs before).step s = ofPairs (s.inserted before) := by
  cases s with
  | insert name v => exact Fields.ext (Entries.ofPairs_append_singleton before (name, v)).symm
  | negate => exact Fields.ext (Entries.ofPairs_append_singleton before (negationKey, _)).symm
  | collect pairs => rfl
  | convert members => exact congrArg ofPairs (Operand.ofMembers_eq_map members)

theorem after_eq (steps : List Step) : after steps = ofPairs (inserted steps) := by
  suffices ∀ before, steps.foldl step (ofPairs before) =
      ofPairs (steps.foldl Step.inserted before) from this []
  induction steps with
  | nil => exact fun _ => rfl
  | cons s steps ih =>
    intro before
    rw [List.foldl_cons, List.foldl_cons, step_ofPairs, ih]

theorem nodup_keys_after (steps : List Step) : (after steps).keys.Nodup := by
  rw [after_eq]
  exact Entries.nodup_keys_ofPairs _

theorem keys_after (steps : List Step) :
    (after steps).keys = ((inserted steps).map Prod.fst).eraseDups := by
  rw [after_eq]
  exact Entries.keys_ofPairs _

theorem mem_keys_after {steps : List Step} {name : String} :
    name ∈ (after steps).keys ↔ name ∈ (inserted steps).map Prod.fst := by
  rw [keys_after, List.mem_eraseDups]

theorem size_after (steps : List Step) :
    (after steps).size = ((inserted steps).map Prod.fst).toFinset.card := by
  have hsame : ((inserted steps).map Prod.fst).toFinset = (after steps).keys.toFinset := by
    ext name
    rw [List.mem_toFinset, List.mem_toFinset, mem_keys_after]
  rw [hsame, List.toFinset_card_of_nodup (nodup_keys_after steps)]
  exact (List.length_map _).symm

/-- **Fields are kept in order of insertion.** After any steps the names are distinct and stand in
the order in which they were first inserted, each of them with the operand that was inserted for it
last. A name that was not inserted has no operand, and there are as many fields as distinct names.

One more insertion changes the operand of its own name, which keeps its place or comes last if it is
new. Every other name keeps its operand and its place. -/
theorem insertion_ordered (steps : List Step) :
    let f := after steps
    let names := (inserted steps).map Prod.fst
    f.keys.Nodup ∧ f.keys = names.eraseDups ∧
      (∀ name, f.get? name =
        ((inserted steps).filter (·.1 = name)).getLast?.map Prod.snd) ∧
      (∀ name, f.get? name = none ↔ name ∉ names) ∧
      f.keys.map f.get? = f.entries.map (fun e => some e.2) ∧
      f.size = names.toFinset.card ∧
      ∀ name v,
        (f.insert name v).get? name = some v ∧
        (f.insert name v).keys = (if name ∈ f.keys then f.keys else f.keys ++ [name]) ∧
        ∀ other, other ≠ name → (f.insert name v).get? other = f.get? other ∧
          ∀ (i : Nat) w, (f.insert name v).entries[i]? = some (other, w) ↔
            f.entries[i]? = some (other, w) := by
  intro f names
  have hlast (name : String) : f.get? name =
      ((inserted steps).filter (·.1 = name)).getLast?.map Prod.snd := by
    change (after steps).get? name = _
    rw [after_eq]
    exact Entries.get?_ofPairs name _
  have hnone (name : String) : f.get? name = none ↔ name ∉ names :=
    Entries.get?_eq_none_iff.trans (not_congr mem_keys_after)
  refine ⟨nodup_keys_after steps, keys_after steps, hlast, hnone,
    Entries.map_get?_keys (nodup_keys_after steps), size_after steps, fun name v => ?_⟩
  have hget (other : String) : (f.insert name v).get? other =
      if name = other then some v else f.get? other := Entries.get?_put name other v f.entries
  refine ⟨by rw [hget, if_pos rfl], Entries.keys_put name v f.entries, fun other hother => ?_⟩
  exact ⟨by rw [hget, if_neg hother.symm], Entries.getElem?_put_of_ne hother v f.entries⟩

/-- Members of an object, two of which are inserted again before one is added. -/
def person : List Step :=
  [.convert [("id", .int 1), ("not", .bool true), ("name", .str "bob")],
    .insert "id" (.value (.int 3)), .negate, .insert "age" (.raw "NOW()")]

theorem insertion_ordered_person :
    "id" ≠ "name" ∧ (after person).keys = ["id", "not", "name", "age"] ∧
      (after person).get? "id" = some (.value (.int 3)) ∧ (after person).get? "mail" = none ∧
      (after person).size = 4 ∧
      ((after person).insert "name" (.value .null)).entries[0]? =
        some ("id", .value (.int 3)) := by
  have hne : "id" ≠ "name" := by decide
  obtain ⟨-, hkeys, hlast, hnone, -, hsize, hinsert⟩ := insertion_ordered person
  obtain ⟨-, -, hother⟩ := hinsert "name" (.value .null)
  refine ⟨hne, hkeys.trans (by decide), (hlast "id").trans rfl, (hnone "mail").2 (by decide),
    hsize.trans (by decide), ?_⟩
  exact ((hother "id" hne).2 0 _).2 rfl

end SqlBuilder.Fields
