import SqlBuilder.Proofs.Names.Generated

/-!
# How bindings grow

Whatever is written, what happens to the bindings of a query and to the counter is a sequence of
four steps: a value is bound to a new placeholder, a sub-query gets a new name, bindings are taken
over from another query, or the caller stores a value under a name of his own. `Binder.Grows` says
that one state comes from another by such steps, and lists the names they generated. The entries
that come from outside, in the last two steps, are those of `S`.

All that is said about bindings follows from the steps: the names are numbered one after the other
(`Grows.numbered`), no key is ever lost (`Grows.isSome_get?`), and an entry was there before, came
from outside or belongs to a placeholder that was generated (`Grows.get?_cases`).
-/

namespace SqlBuilder.Binder

/-- The second state comes from the first by binding, naming and entries of `S`; the names that
were generated on the way are listed. -/
inductive Grows (S : String → Value → Prop) : Binder → List Generated → Binder → Prop
  | refl (b : Binder) : Grows S b [] b
  | bind {b c : Binder} {names : List Generated} (h : Grows S b names c) {v : Value}
    (hv : inline? v = none) (modifier : Option String) :
    Grows S b (names ++ [.token (c.lastId + 1) v.stored]) (Binder.bind v modifier c).2
  | name {b c : Binder} {names : List Generated} (h : Grows S b names c) :
    Grows S b (names ++ [.subquery (c.lastId + 1)]) (nextId c).2
  | absorb {b c : Binder} {names : List Generated} (h : Grows S b names c) {taken : Bindings}
    (htaken : ∀ k v, taken.get? k = some v → S k v) (note : Nat → Note) :
    Grows S b names (Binder.absorb taken note c).2
  | store {b c : Binder} {names : List Generated} (h : Grows S b names c) {name : String}
    {v : Value} (hv : S (Bindings.key name) v.stored) :
    Grows S b names { c with bindings := Bindings.put c.bindings name v }

namespace Grows

variable {S : String → Value → Prop} {b c : Binder} {names : List Generated}

theorem trans {d : Binder} {more : List Generated} (h : Grows S b names c)
    (hmore : Grows S c more d) : Grows S b (names ++ more) d := by
  induction hmore with
  | refl => rwa [List.append_nil]
  | bind _ hv modifier ih =>
    rw [← List.append_assoc]
    exact ih.bind hv modifier
  | name _ ih =>
    rw [← List.append_assoc]
    exact ih.name
  | absorb _ htaken note ih => exact ih.absorb htaken note
  | store _ hv ih => exact ih.store hv

/-- More may come from outside. -/
theorem mono {T : String → Value → Prop} (h : Grows S b names c)
    (hST : ∀ k v, S k v → T k v) : Grows T b names c := by
  induction h with
  | refl => exact .refl _
  | bind _ hv modifier ih => exact ih.bind hv modifier
  | name _ ih => exact ih.name
  | absorb _ htaken note ih => exact ih.absorb (fun k v hk => hST k v (htaken k v hk)) note
  | store _ hv ih => exact ih.store (hST _ _ hv)

/-! ## One step -/

theorem bind_lastId {v : Value} (hv : inline? v = none) (modifier : Option String) (c : Binder) :
    (Binder.bind v modifier c).2.lastId = c.lastId + 1 := by
  rw [bind_of_not_inline hv]

theorem get?_bind {v : Value} (hv : inline? v = none) (modifier : Option String) (c : Binder)
    (k : String) :
    (Binder.bind v modifier c).2.bindings.get? k =
      if tokenOf (c.lastId + 1) = k then some v.stored else c.bindings.get? k := by
  rw [bind_of_not_inline hv]
  exact Dict.get?_insert ..

theorem get?_absorb (taken : Bindings) (note : Nat → Note) (c : Binder) (k : String) :
    (Binder.absorb taken note c).2.bindings.get? k = (taken.get? k).or (c.bindings.get? k) :=
  Dict.get?_merge ..

theorem get?_store (name : String) (v : Value) (c : Binder) (k : String) :
    (Bindings.put c.bindings name v).get? k =
      if Bindings.key name = k then some v.stored else c.bindings.get? k :=
  Dict.get?_insert ..

/-! ## Many steps -/

/-- The counter counts the names. -/
theorem lastId_eq (h : Grows S b names c) : c.lastId = b.lastId + names.length := by
  induction h with
  | refl => rfl
  | bind _ hv modifier ih =>
    rw [bind_lastId hv, ih, List.length_append]
    rfl
  | name _ ih =>
    rw [List.length_append, ← Nat.add_assoc, ← ih]
    rfl
  | absorb _ _ _ ih => exact ih
  | store _ _ ih => exact ih

/-- The names bear the numbers that were counted. -/
theorem numbered (h : Grows S b names c) : Numbered b.lastId names := by
  induction h with
  | refl => exact .nil _
  | bind h hv modifier ih => exact ih.snoc (congrArg (· + 1) h.lastId_eq)
  | name h ih => exact ih.snoc (congrArg (· + 1) h.lastId_eq)
  | absorb _ _ _ ih => exact ih
  | store _ _ ih => exact ih

/-- No key is lost. -/
theorem isSome_get? (h : Grows S b names c) {k : String} (hk : (b.bindings.get? k).isSome) :
    (c.bindings.get? k).isSome := by
  induction h with
  | refl => exact hk
  | bind _ hv modifier ih =>
    rw [bind_of_not_inline hv]
    exact Dict.isSome_get?_insert ih
  | name _ ih => exact ih
  | absorb _ htaken note ih =>
    rw [get?_absorb, Option.isSome_or, ih, Bool.or_true]
  | store _ hv ih => exact Dict.isSome_get?_insert ih

/-- An entry was there before, comes from outside, or belongs to a generated placeholder. -/
theorem get?_cases (h : Grows S b names c) {k : String} {v : Value}
    (hk : c.bindings.get? k = some v) :
    b.bindings.get? k = some v ∨ S k v ∨ ∃ n, k = tokenOf n ∧ .token n v ∈ names := by
  induction h with
  | refl => exact .inl hk
  | @bind c names _ w hw modifier ih =>
    rw [get?_bind hw] at hk
    split at hk
    · rename_i heq
      obtain rfl := Option.some.inj hk
      exact .inr (.inr ⟨_, heq.symm, by simp⟩)
    · exact (ih hk).imp_right (Or.imp_right fun ⟨n, hn, hmem⟩ => ⟨n, hn, by simp [hmem]⟩)
  | name _ ih => exact (ih hk).imp_right (Or.imp_right fun ⟨n, hn, hmem⟩ => ⟨n, hn, by simp [hmem]⟩)
  | absorb _ htaken note ih =>
    rw [get?_absorb] at hk
    rcases Option.or_eq_some_iff.1 hk with hk | ⟨-, hk⟩
    · exact .inr (.inl (htaken _ _ hk))
    · exact ih hk
  | store _ hw ih =>
    rw [get?_store] at hk
    split at hk
    · rename_i heq
      obtain rfl := Option.some.inj hk
      exact .inr (.inl (heq ▸ hw))
    · exact ih hk

/-- A generated placeholder has a value. -/
theorem isSome_get?_of_mem (h : Grows S b names c) {n : Nat} {v : Value}
    (hmem : .token n v ∈ names) : (c.bindings.get? (tokenOf n)).isSome := by
  induction h with
  | refl => cases hmem
  | bind h hw modifier ih =>
    rw [get?_bind hw]
    split
    · rfl
    · rename_i hne
      rcases List.mem_append.1 hmem with hmem | hmem
      · exact ih hmem
      · obtain ⟨rfl, -⟩ := Generated.token.inj (List.mem_singleton.1 hmem)
        exact absurd rfl hne
  | name _ ih => exact ih (by simpa using hmem)
  | absorb _ htaken note ih =>
    rw [get?_absorb, Option.isSome_or, ih hmem, Bool.or_true]
  | store _ hw ih => exact Dict.isSome_get?_insert (ih hmem)

/-- Where nothing comes from outside, only the placeholders that were generated are new. -/
theorem get?_eq (h : Grows (fun _ _ => False) b names c) {k : String}
    (hk : ∀ n, b.lastId < n → k ≠ tokenOf n) : c.bindings.get? k = b.bindings.get? k := by
  cases hc : c.bindings.get? k with
  | some v =>
    rcases h.get?_cases hc with hb | hS | ⟨n, hn, hmem⟩
    · exact hb.symm
    · exact hS.elim
    · exact absurd hn (hk n (h.numbered.le_of_mem hmem).1)
  | none =>
    cases hb : b.bindings.get? k with
    | none => rfl
    | some v =>
      have hsome := h.isSome_get? (k := k) (by rw [hb]; rfl)
      rw [hc] at hsome
      cases hsome

end Grows
end SqlBuilder.Binder
