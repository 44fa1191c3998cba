import SqlBuilder.Proofs.Frame
import SqlBuilder.Proofs.Merging.Embedding
import SqlBuilder.Proofs.Names.Session
import SqlBuilder.Proofs.Rejection.Progress

/-!
# A rejected call cannot be seen

Conditions, joins, single assignments, rows and a sub-query for a source are written first and put
into their clauses last. If such a call fails, no clause was touched (`Edit.Atomic`), but what was
bound and taken over on the way stays in the bindings. It does no harm: a placeholder generated on
the way is newer than any the query holds, so what it compiles to is the same as before
(`Session.rejected_call`). The one way to lose a value is to take over another one under the same
key from a query that came before the place of the failure, and with generated placeholders alone
this cannot happen.
-/

namespace SqlBuilder

open Binder (tokenOf)

/-! ## Clauses are touched last -/

/-- If the edit fails, nothing has changed but what the writing of fragments touches. -/
def Edit.Atomic {α : Type} (e : Edit α) : Prop :=
  ∀ d f d', e d = (.error f, d') → d' = d.withBinder d'.binder

namespace Edit

variable {α β : Type}

theorem atomic_of_ok {e : Edit α} (h : ∀ d, ∃ a d', e d = (.ok a, d')) : Atomic e := by
  intro d f d' hd
  obtain ⟨a, d'', hok⟩ := h d
  cases hok.symm.trans hd

theorem atomic_change (f : Query → Query) : Atomic (change f) :=
  atomic_of_ok fun _ => ⟨_, _, rfl⟩

theorem atomic_throw (f : Failure) : Atomic (throw f : Edit α) := by
  intro d g d' h
  cases h
  rfl

theorem atomic_write_bind {r : Render α} {next : α → Edit β} (h : ∀ a, Atomic (next a)) :
    Atomic (write r >>= next) := by
  intro d f d' hd
  rw [write_bind] at hd
  rcases hr : r d.binder with ⟨g | a, b⟩
  · rw [hr] at hd
    cases hd
    rfl
  · rw [hr] at hd
    exact h a (d.withBinder b) f d' hd

theorem atomic_addCondition (c : Condition Query) (v : Option Operand)
    (operator modifier : Option String) : Atomic (addCondition c v operator modifier) :=
  atomic_write_bind fun _ => atomic_change _

theorem atomic_between (field : String) (low high : Value) (modifier : Option String) :
    Atomic (between field low high modifier) :=
  atomic_write_bind fun _ => atomic_write_bind fun _ => atomic_addCondition _ _ _ _

theorem atomic_inRange (field : String) (low high : Value) : Atomic (inRange field low high) := by
  unfold inRange
  split
  · exact atomic_of_ok fun _ => ⟨_, _, rfl⟩
  · exact atomic_addCondition _ _ _ _
  · exact atomic_addCondition _ _ _ _
  · exact atomic_between _ _ _ _

theorem atomic_addRow (f : Fields) : Atomic (addRow f) := by
  unfold addRow
  split
  · exact atomic_throw _
  · exact atomic_of_ok fun _ => ⟨_, _, rfl⟩

theorem atomic_addRowValues (vs : List Operand) : Atomic (addRowValues vs) := by
  intro d f d' h
  rw [addRowValues_apply] at h
  cases hcolumns : (!d.query.hasAllColumns && !d.query.columns.isEmpty) with
  | false =>
    rw [hcolumns] at h
    cases h
    rfl
  | true =>
    rw [hcolumns] at h
    exact atomic_addRow _ d f d' h

/-- A fragment is written and put into its clause, which touches no bindings. -/
theorem binder_write_change {r : Render α} {f : α → Query → Query}
    (hf : ∀ a q, (f a q).bindings = q.bindings) (d : Draft) :
    ((write r >>= fun a => change (f a)) d).2.binder = (r d.binder).2 := by
  rw [write_bind]
  rcases r d.binder with ⟨g | a, b⟩
  · rfl
  · exact congrArg (Binder.mk · b.lastId b.notes) (hf a (d.withBinder b).query)

end Edit

namespace Call

/-- The call puts one thing into a clause, after all that can fail. -/
def allOrNothing {Q : Type} : Call Q → Bool
  | fromSubquery _ _ | set _ _ _ | addRow _ | addRowValues _ | clearConditions
  | addCondition _ _ _ _ | between _ _ _ _ | inRange _ _ _ | join _ _ => true
  | _ => false

theorem allOrNothing_resolve {Q R : Type} {find? : Q → Option R} {c : Call Q} {d : Call R}
    (h : c.resolve find? = some d) : d.allOrNothing = c.allOrNothing := by
  cases c with
  | fromSubquery _ _ | columns _ | selectColumns _ | addColumn _ _ | addCondition _ _ _ _
  | join _ _ =>
    obtain ⟨_, -, rfl⟩ := Option.map_eq_some_iff.1 h
    rfl
  | _ =>
    cases h
    rfl

theorem atomic_run {c : Call Query} (hc : c.allOrNothing = true) : c.run.Atomic := by
  have hedit : c.edit.Atomic := by
    cases c with
    | fromSubquery q aliasName => exact Edit.atomic_write_bind fun _ => Edit.atomic_change _
    | set column v modifier => exact Edit.atomic_write_bind fun _ => Edit.atomic_change _
    | join kind j => exact Edit.atomic_write_bind fun _ => Edit.atomic_change _
    | clearConditions => exact Edit.atomic_of_ok fun _ => ⟨_, _, rfl⟩
    | addRow f => exact Edit.atomic_addRow f
    | addRowValues vs => exact Edit.atomic_addRowValues vs
    | addCondition c v operator modifier => exact Edit.atomic_addCondition c v operator modifier
    | between field low high modifier => exact Edit.atomic_between field low high modifier
    | inRange field low high => exact Edit.atomic_inRange field low high
    | _ => cases hc
  intro d f d' h
  rcases c.run_cases d with ⟨g, e, hfail, hrun⟩ | ⟨text, e, -, hrun⟩
  · cases hrun.symm.trans h
    exact hedit d _ _ hfail
  · cases hrun.symm.trans h

/-- What the call takes over are entries of the first of its queries, of as many as there are new
notes. -/
def TakesFirst (c : Call Query) (q : Query) (lastId : Nat) : Prop :=
  ∃ names, Binder.Grows (Among (c.queries.take (c.run ⟨q, lastId, []⟩).2.notes.length))
    ⟨q.bindings, lastId, []⟩ names (c.run ⟨q, lastId, []⟩).2.binder

section TakesFirst

variable {c : Call Query} (q : Query) (lastId : Nat)

/-- A call that writes one fragment and puts it into its clause. -/
theorem takesFirst_of_write {α : Type} {r : Render α} {f : α → Query → Query}
    (hr : Progress c.queries r) (hf : ∀ a q, (f a q).bindings = q.bindings)
    (hedit : c.edit = (Edit.write r >>= fun a => Edit.change (f a))) : c.TakesFirst q lastId := by
  have hbinder : (c.run ⟨q, lastId, []⟩).2.binder = (r ⟨q.bindings, lastId, []⟩).2 := by
    rw [run_snd, hedit, Edit.binder_write_change hf]
    rfl
  obtain ⟨k, names, hnotes, hgrows, -⟩ := hr ⟨q.bindings, lastId, []⟩
  rw [← hbinder] at hnotes hgrows
  rw [List.length_nil, Nat.zero_add] at hnotes
  exact ⟨names, hgrows.mono fun _ _ => Among.of_subset (List.take_subset_take_left _ hnotes)⟩

/-- A call that refers to no query. -/
theorem takesFirst_of_alone (hqueries : c.queries = [])
    (hstored : ∀ name v, c ≠ insertBinding name v) : c.TakesFirst q lastId := by
  obtain ⟨names, hgrows⟩ := run_grows_alone hqueries hstored ⟨q, lastId, []⟩
  exact ⟨names, hgrows.mono fun _ _ => False.elim⟩

theorem takesFirst (hc : c.allOrNothing = true) : c.TakesFirst q lastId := by
  cases c with
  | fromSubquery p aliasName =>
    exact takesFirst_of_write q lastId (f := fun text q => { q with subquery := text })
      (p.progress_embed aliasName).map (fun _ _ => rfl) rfl
  | addCondition c v operator modifier =>
    exact takesFirst_of_write q lastId
      (f := fun text q => { q with conditions := q.conditions ++ text.toList })
      (c.progress_text v operator modifier) (fun _ _ => rfl) rfl
  | join kind j =>
    exact takesFirst_of_write q lastId (f := fun text q => { q with joins := q.joins ++ [text] })
      (j.progress_text kind) (fun _ _ => rfl) rfl
  | set _ _ _ | addRow _ | addRowValues _ | clearConditions | between _ _ _ _ | inRange _ _ _ =>
    exact takesFirst_of_alone q lastId rfl fun _ _ h => nomatch h
  | _ => cases hc

end TakesFirst

end Call

/-! ## What compiling sees of the bindings -/

/-- More bindings do not change what a query compiles to, if those it has stay what they are. -/
theorem Query.compile_of_agree {q : Query} {b : Bindings} {c : Compiled}
    (h : ∀ k v, q.bindings.get? k = some v → b.get? k = some v) (hc : q.compile = .ok c) :
    { q with bindings := b }.compile = .ok c := by
  have hwritten : { q with bindings := b }.written = q.written := rfl
  rw [compile_eq] at hc ⊢
  rw [hwritten]
  cases hw : q.written with
  | error f =>
    rw [hw] at hc
    cases hc
  | ok w =>
    rw [hw] at hc
    cases w with
    | final compiled => exact hc
    | template sql =>
      have hresolve : q.resolve sql = .ok c := hc
      have hagree : ∀ t ∈ placeholders sql, b.get? t = q.bindings.get? t := fun t ht => by
        obtain ⟨v, hv⟩ := Option.isSome_iff_exists.1 ((resolve_eq_ok_iff.1 hresolve).1 t ht)
        exact (h t v hv).trans hv.symm
      exact (resolve_congr (p := { q with bindings := b }) (q := q) rfl hagree).trans hresolve

namespace Session

/-- A query that the session holds and the call that is made on it are edited in place. -/
theorem step_call {s : Session} {name : String} {c : Call String} {q : Query} {d : Call Query}
    (hq : s.queries.get? name = some q) (hd : c.resolve s.queries.get? = some d) :
    s.step (.call name c) = s.edit name q d := by
  simp only [step, hq, hd]

/-- **A rejected call cannot be seen.** In a session in which the caller stored nothing under a
placeholder of the generated form and read no state, a condition, a join, an assignment, rows or a
sub-query for a source that is rejected leaves all of the query as it was but its bindings. One
event was logged for each query whose bindings were taken over before the failure, the first ones
of the call in order. If none of these holds another value under a key of the query, the query
keeps its values and compiles to what it compiled to before. -/
theorem rejected_call {s : Session} (hs : s.Unforged) {name : String} {c : Call String}
    (hc : c.allOrNothing = true) {q : Query} (hq : s.queries.get? name = some q) {d : Call Query}
    (hd : c.resolve s.queries.get? = some d) {f : Failure}
    (hfail : (s.step (.call name c)).1.answer = .error (.failure f)) :
    ∃ r, (s.step (.call name c)).2.queries.get? name = some r ∧
      r = { q with bindings := r.bindings } ∧
        ((∀ p ∈ d.queries.take (s.step (.call name c)).1.events.length,
            ∀ k v w, q.bindings.get? k = some v → p.bindings.get? k = some w → v = w) →
          (∀ k v, q.bindings.get? k = some v → r.bindings.get? k = some v) ∧
            ∀ compiled, q.compile = .ok compiled → r.compile = .ok compiled) := by
  rw [step_call hq hd] at hfail ⊢
  have hdc : d.allOrNothing = true := (Call.allOrNothing_resolve hd).trans hc
  rcases hrun : d.run ⟨q, s.lastId, []⟩ with ⟨g | text, e⟩
  · have hframe : e.query = { q with bindings := e.query.bindings } := by
      have hatomic := Call.atomic_run hdc _ _ _ hrun
      rw [hatomic]
      rfl
    have hedit : s.edit name q d =
        (⟨.error (.failure g), Snapshot.changes q e.query, e.notes.map .absorbed⟩,
          { s with queries := s.queries.insert name e.query, lastId := e.lastId }) := by
      simp only [edit, hrun, answerOf]
    rw [hedit]
    refine ⟨e.query, by simp, hframe, fun hclash => ?_⟩
    rw [List.length_map] at hclash
    have hkeeps : ∀ k v, q.bindings.get? k = some v → e.query.bindings.get? k = some v := by
      intro k v hv
      obtain ⟨names, hgrows⟩ := Call.takesFirst q s.lastId hdc
      rw [hrun] at hgrows
      have hsome := hgrows.isSome_get? (k := k) (Option.isSome_of_eq_some hv)
      obtain ⟨w, hw⟩ := Option.isSome_iff_exists.1 hsome
      have hvw : v = w := by
        rcases hgrows.get?_cases hw with hold | ⟨p, hp, hpw⟩ | ⟨n, rfl, hmem⟩
        · exact Option.some.inj (hv.symm.trans hold)
        · exact hclash p hp k v w hv hpw
        · have hnew := hs.not_ahead hq (hgrows.numbered.le_of_mem hmem).1
          cases hnew.symm.trans hv
      exact hvw ▸ hw
    refine ⟨hkeeps, fun compiled hcompiled => ?_⟩
    rw [hframe]
    exact Query.compile_of_agree hkeeps hcompiled
  · simp only [edit, hrun, answerOf] at hfail
    cases hfail

/-- Two queries that hold the same value under a key of the caller's. -/
def sharing : List Command :=
  [.create "p" (.actingOn .select "t"), .call "p" (.insertBinding "least" (.int 7)),
    .call "p" (.whereClause (.raw "a >= {{least}}")),
    .create "q" (.actingOn .select "u"), .call "q" (.insertBinding "least" (.int 7)),
    .call "q" (.whereEq (.raw "b") (.value (.int 5)))]

/-- A list of conditions whose second one is rejected after a value of it was bound. -/
def refusedList : Call String :=
  .whereClause (.list [.query "p", .fields ⟨[("c", .list [.value (.int 1), .list []])]⟩,
    .query "q"])

theorem sharing_unforged : (run {} sharing).2.Unforged := by
  refine ⟨{}, sharing, rfl, ?_, rfl⟩
  simp only [sharing, List.forall_mem_cons]
  exact ⟨rfl, Binder.ne_tokenOf (by decide +kernel), trivial, rfl,
    Binder.ne_tokenOf (by decide +kernel), trivial, List.forall_mem_nil _⟩

theorem rejected_call_sharing : ∃ q d r,
    (run {} sharing).2.queries.get? "q" = some q ∧
      refusedList.resolve (run {} sharing).2.queries.get? = some d ∧
        ((run {} sharing).2.step (.call "q" refusedList)).1.answer =
          .error (.failure (.misfit .operand)) ∧
        ((run {} sharing).2.step (.call "q" refusedList)).2.queries.get? "q" = some r ∧
          q.bindings.size = 2 ∧ r.bindings.size = 3 ∧
            r.compile = .ok ⟨"SELECT * FROM `u` WHERE b = ?", [.int 5]⟩ := by
  have hquery : ((run {} sharing).2.queries.get? "q").map
      (fun q => (q.bindings.size, q.bindings.get? "{{least}}", q.compile)) =
        some (2, some (.int 7), .ok ⟨"SELECT * FROM `u` WHERE b = ?", [.int 5]⟩) := by
    decide +kernel
  have hcall : (refusedList.resolve (run {} sharing).2.queries.get?).map
      (fun d => d.queries.map fun p => p.bindings.entries) =
        some [[("{{least}}", .int 7)],
          [("{{binding1}}", .int 5), ("{{least}}", .int 7)]] := by decide +kernel
  have hsize : (((run {} sharing).2.step (.call "q" refusedList)).2.queries.get? "q").map
      (fun q => q.bindings.size) = some 3 := by decide +kernel
  have hevents : ((run {} sharing).2.step (.call "q" refusedList)).1.events.length = 1 := by
    decide +kernel
  have hfail : ((run {} sharing).2.step (.call "q" refusedList)).1.answer =
      .error (.failure (.misfit .operand)) := by
    have hfailure : (match ((run {} sharing).2.step (.call "q" refusedList)).1.answer with
        | .error (.failure f) => some f
        | _ => none) = some (.misfit .operand) := by decide +kernel
    split at hfailure
    · rename_i h
      rw [h, Option.some.inj hfailure]
    · cases hfailure
  obtain ⟨q, hq, hquery⟩ := Option.map_eq_some_iff.1 hquery
  obtain ⟨d, hd, hcall⟩ := Option.map_eq_some_iff.1 hcall
  simp only [Prod.mk.injEq] at hquery
  obtain ⟨hq2, hleast, hcompile⟩ := hquery
  obtain ⟨r, hr, -, hkept⟩ := rejected_call sharing_unforged (c := refusedList) rfl hq hd hfail
  rw [hr, Option.map_some, Option.some.injEq] at hsize
  have hagree : ∀ p ∈ d.queries.take 1,
      ∀ k v w, q.bindings.get? k = some v → p.bindings.get? k = some w → v = w := by
    obtain ⟨p, rest, hqueries, hp, -⟩ := List.map_eq_cons_iff.1 hcall
    rw [hqueries, List.take_succ_cons, List.take_zero]
    rintro _ (_ | ⟨_, ⟨⟩⟩) k v w hv hw
    simp only [Dict.get?, hp, Entries.get?] at hw
    split at hw
    · rename_i hk
      rw [← hk, hleast] at hv
      exact (Option.some.inj hv).symm.trans (Option.some.inj hw)
    · cases hw
  rw [hevents] at hkept
  exact ⟨q, d, r, hq, hd, hfail, hr, hq2, hsize, (hkept hagree).2 _ hcompile⟩

end Session
end SqlBuilder
