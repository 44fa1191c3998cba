import SqlBuilder.Proofs.Supply.Call

/-!
# How far a rejected call came

A call goes through its parts in order, and where it fails it has taken over the bindings of the
queries in front of that place. Taking over bindings is the one thing that leaves a note, so the
number of notes tells how many of the queries these were: `Progress` says of the writing of a
fragment that bindings grew by entries of no more queries than that, counted from the first, and by
generated placeholders.

Where there is no query in a fragment, this is what `Writes` says with nothing from outside. So
only those functions are gone through here that can meet a query.
-/

namespace SqlBuilder

open Binder (Grows)

namespace Binder.Grows

variable {S : String → Value → Prop} {b c : Binder} {names : List Generated}

/-- No note is lost. -/
theorem notes_le (h : Grows S b names c) : b.notes.length ≤ c.notes.length := by
  induction h with
  | refl => exact Nat.le_refl _
  | bind _ hv modifier ih =>
    rw [bind_of_not_inline hv]
    exact ih
  | name _ ih => exact ih
  | @absorb c _ _ taken _ note ih =>
    have hnotes : (Binder.absorb taken note c).2.notes = c.notes ++ [note taken.size] := rfl
    rw [hnotes, List.length_append]
    omega
  | store _ _ ih => exact ih

end Binder.Grows

/-! ## Progress -/

/-- An entry of one of the queries. -/
def Among (qs : List Query) (k : String) (v : Value) : Prop :=
  ∃ q ∈ qs, q.bindings.get? k = some v

theorem Among.of_subset {qs rs : List Query} (h : qs ⊆ rs) {k : String} {v : Value} :
    Among qs k v → Among rs k v := fun ⟨q, hq, hv⟩ => ⟨q, h hq, hv⟩

/-- What is taken over on the way are entries of the first of the queries, of no more than there
are new notes; and of all of them if the writing succeeds. -/
def Progress {α : Type} (qs : List Query) (r : Render α) : Prop :=
  ∀ b, ∃ k names, b.notes.length + k ≤ (r b).2.notes.length ∧
    Grows (Among (qs.take k)) b names (r b).2 ∧ ∀ a, (r b).1 = .ok a → k = qs.length

namespace Progress

variable {α β : Type} {qs rs : List Query} {r : Render α}

/-- A fragment without queries. -/
theorem of_writes {given : List String} {out : α → List String}
    (h : Writes (fun _ _ => False) given r out) : Progress [] r := by
  intro b
  obtain ⟨names, hgrows⟩ := h.grows b
  exact ⟨0, names, hgrows.notes_le, hgrows.mono fun _ _ => False.elim, fun _ _ => rfl⟩

theorem pure (a : α) : Progress [] (Pure.pure a : Render α) :=
  fun _ => ⟨0, [], Nat.le_refl _, .refl _, fun _ _ => rfl⟩

theorem throw (f : Failure) : Progress qs (MonadExcept.throw f : Render α) :=
  fun _ => ⟨0, [], Nat.le_refl _, .refl _, fun _ ha => nomatch ha⟩

/-- The queries of the first part come before those of the second. -/
theorem bind {next : α → Render β} (h : Progress qs r) (hnext : ∀ a, Progress rs (next a)) :
    Progress (qs ++ rs) (r >>= next) := by
  intro b
  obtain ⟨k, names, hnotes, hgrows, hall⟩ := h b
  rcases hr : r b with ⟨f | a, c⟩
  · rw [hr] at hnotes hgrows
    rw [bind_of_error hr]
    have hsub : qs.take k ⊆ (qs ++ rs).take k := by
      rw [List.take_append]
      exact List.subset_append_left _ _
    exact ⟨k, names, hnotes, hgrows.mono fun _ _ => Among.of_subset hsub, fun _ ha => nomatch ha⟩
  · rw [hr] at hnotes hgrows hall
    obtain rfl : k = qs.length := hall a rfl
    obtain ⟨m, more, hmnotes, hmore, hmall⟩ := hnext a c
    rw [bind_of_ok hr]
    have hfirst : b.notes.length + qs.length ≤ c.notes.length := hnotes
    have hsum : b.notes.length + (qs.length + m) ≤ (next a c).2.notes.length := by omega
    have hsplit : (qs ++ rs).take (qs.length + m) = qs ++ rs.take m := List.take_length_add_append m
    refine ⟨qs.length + m, names ++ more, hsum, ?_, fun x hx => by
      rw [hmall x hx, List.length_append]⟩
    rw [hsplit]
    refine (hgrows.mono fun _ _ => ?_).trans (hmore.mono fun _ _ => ?_)
    · rw [List.take_length]
      exact Among.of_subset (List.subset_append_left _ _)
    · exact Among.of_subset (List.subset_append_right _ _)

theorem map {f : α → β} (h : Progress qs r) : Progress qs (do return f (← r)) := by
  have hbind : Progress (qs ++ []) (do return f (← r)) := h.bind fun a => pure (f a)
  rwa [List.append_nil] at hbind

end Progress

/-! ## Queries in fragments -/

namespace Query

theorem progress_absorb (q : Query) (sql : String) (note : Nat → Note) :
    Progress [q] (Binder.absorb (q.bindings.referenced sql) note : Render Unit) := by
  intro b
  have hnotes : (Binder.absorb (q.bindings.referenced sql) note b).2.notes =
      b.notes ++ [note (q.bindings.referenced sql).size] := rfl
  refine ⟨1, [], ?_, .absorb (.refl b) (fun k v hk => ?_) note, fun _ _ => rfl⟩
  · exact Nat.le_of_eq ((congrArg List.length hnotes).trans List.length_append).symm
  · rw [Bindings.get?_referenced] at hk
    split at hk
    · exact ⟨q, List.mem_singleton_self q, hk⟩
    · cases hk

/-- The name under which a query is embedded does not matter. -/
theorem progress_embed (q : Query) (aliasName : Option String) :
    Progress [q] (q.under aliasName).embed := by
  unfold embed
  split
  · exact (Progress.of_writes (q.under aliasName).nameInside_writes).bind fun name =>
      (q.progress_absorb (q.under aliasName).selectText .subquery).map (f := fun _ => _)
  · exact .throw _

theorem progress_embedGroup (q : Query) :
    Progress [q] (q.embedGroup : Render (List String)) :=
  (q.progress_absorb (spaced q.group) .conditions).map (f := fun _ => q.group)

end Query

namespace Condition

section FieldNames

variable {Q : Type}

mutual

/-- A condition with a query in it names no fields. -/
theorem queries_of_fieldNames : {c : Condition Q} → {names : List String} →
    fieldNames c = .ok names → c.queries = []
  | .raw _, _, _ => rfl
  | .list _, _, h => queriesOfItems_of_fieldNames h
  | .fields _, _, h | .query _, _, h | .value _, _, h => nomatch h

theorem queriesOfItems_of_fieldNames : {cs : List (Condition Q)} → {names : List String} →
    fieldNamesOfItems cs = .ok names → queriesOfItems cs = []
  | [], _, _ => rfl
  | c :: cs, _, h => by
    unfold fieldNamesOfItems at h
    cases hc : fieldNames c with
    | error f =>
      rw [hc] at h
      cases h
    | ok first =>
      cases hcs : fieldNamesOfItems cs with
      | error f =>
        rw [hc, hcs] at h
        cases h
      | ok rest =>
        rw [queriesOfItems, queries_of_fieldNames hc, queriesOfItems_of_fieldNames hcs,
          List.append_nil]

end

end FieldNames

mutual

theorem progress_parts (operator : String) (modifier : Option String) :
    (c : Condition Query) → Progress c.queries (parts operator modifier c)
  | .raw _ => .pure _
  | .list items => progress_partsOfItems operator modifier items
  | .fields f => (Progress.of_writes (objectText_writes operator modifier f)).map
  | .query q => q.progress_embedGroup.map
  | .value _ => .throw _

theorem progress_partsOfItems (operator : String) (modifier : Option String) :
    (cs : List (Condition Query)) →
    Progress (queriesOfItems cs) (partsOfItems operator modifier cs)
  | [] => .pure _
  | c :: cs => (progress_parts operator modifier c).bind fun _ =>
      (progress_partsOfItems operator modifier cs).map

end

/-- Fields that are compared with an operand are named without queries. -/
theorem progress_compareNamed (operator : String) (modifier : Option String)
    (c : Condition Query) (v : Operand) :
    Progress c.queries
      (do compareAll operator modifier v (← (fieldNames c : Except Failure _))) := by
  cases hnames : fieldNames c with
  | error f => exact .throw f
  | ok names =>
    rw [queries_of_fieldNames hnames]
    exact .of_writes (compareAll_writes operator modifier v names)

theorem progress_partsWith (operator : String) (modifier : Option String) (c : Condition Query)
    (v : Option Operand) : Progress c.queries (partsWith operator modifier c v) := by
  cases v with
  | some v =>
    cases c with
    | raw _ | list _ => exact progress_compareNamed operator modifier _ v
    | fields _ | query _ | value _ => exact .throw _
  | none =>
    cases c with
    | raw sql => exact .pure _
    | list items => exact progress_partsOfItems operator modifier items
    | fields f => exact (Progress.of_writes (objectText_writes operator modifier f)).map
    | query q => exact q.progress_embedGroup
    | value _ => exact .throw _

theorem progress_text (c : Condition Query) (v : Option Operand)
    (operator modifier : Option String) : Progress c.queries (text c v operator modifier) :=
  (progress_partsWith (operator.getD "=") modifier c v).map

end Condition

namespace Join

theorem progress_targetParts (aliasName : Option String) (target : Option (JoinTarget Query)) :
    Progress (target.toList.flatMap targetQueries) (targetParts aliasName target) := by
  cases target with
  | none => exact .throw _
  | some target =>
    cases target with
    | table name =>
      exact .of_writes (targetParts_writes aliasName (some (.table name)) fun _ h => nomatch h)
    | query q => exact (q.progress_embed aliasName).map

theorem progress_text (kind : Option JoinKind) (j : Join Query) :
    Progress j.queries (j.text kind) := by
  cases j with
  | raw sql => exact .of_writes (text_writes kind (.raw sql) fun _ h => nomatch h)
  | query q => exact .throw _
  | options o =>
    have hparts : Progress (o.target.toList.flatMap targetQueries ++ [])
        (text kind (.options o)) :=
      (progress_targetParts o.aliasName o.target).bind fun _ =>
        (Progress.of_writes (linkParts_writes _)).map
    rwa [List.append_nil] at hparts

end Join
end SqlBuilder
