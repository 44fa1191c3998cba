import SqlBuilder.Proofs.Session
import SqlBuilder.Proofs.Supply.Call

/-!
# A missing value is the caller's doing

A script does its part if it gives to a query no text with a placeholder the query holds no value
for, and names no sub-query by a placeholder. Then every query stays closed, through copies, merges
to any depth and calls that fail half way (`Session.closed_step`), and so no query ever lacks a
value when it is compiled (`Session.nothing_goes_unbound`).
-/

namespace SqlBuilder

/-! ## Compiling closed queries -/

namespace Query

theorem exists_missing_of_ite {p : Prop} [Decidable p] {w : Written} {what : Requirement}
    {f : Failure} (h : (if p then .ok w else .error (.missing what)) = (.error f : Except _ Written)) :
    ∃ what, f = .missing what := by
  split at h
  · cases h
  · exact ⟨what, (Except.error.inj h).symm⟩

/-- A statement that cannot be written lacks something else than a value. -/
theorem exists_missing_of_written {q : Query} {f : Failure} (h : q.written = .error f) :
    ∃ what, f = .missing what := by
  unfold written at h
  split at h
  · exact ⟨.action, (Except.error.inj h).symm⟩
  · rename_i a _
    split at h
    · cases a with
      | select => cases h
      | insert =>
        rw [write_insert] at h
        split at h
        · exact exists_missing_of_ite h
        · cases h
      | update =>
        rw [write_update] at h
        split at h
        · exact exists_missing_of_ite h
        · exact ⟨_, (Except.error.inj h).symm⟩
      | delete => exact exists_missing_of_ite (write_delete q ▸ h)
    · exact ⟨.table, (Except.error.inj h).symm⟩

theorem Closed.compile_ne_unbound {q : Query} (h : q.Closed) (t : String) :
    q.compile ≠ .error (.unbound t) := by
  intro hc
  rw [compile_eq] at hc
  cases hw : q.written with
  | error f =>
    obtain ⟨what, rfl⟩ := exists_missing_of_written hw
    rw [hw] at hc
    cases hc
  | ok w =>
    rcases written_eq_ok hw with ⟨a, -, rfl⟩ | ⟨-, rfl⟩
    · have hstores : q.Stores (placeholders (q.statementText a)) := h.supplies_statementText a
      obtain ⟨vs, hvs⟩ := hstores.exists_values
      rw [hw] at hc
      change q.resolve (q.statementText a) = _ at hc
      rw [resolve_of_stored hvs] at hc
      cases hc
    · rw [hw] at hc
      cases hc

end Query

theorem Creation.Begins.closed {how : Creation} {q : Query} (h : how.Begins q)
    (htable : ∀ table ∈ how.table?, placeholders table = []) : q.Closed := by
  rw [h]
  refine ⟨?_, fun _ hname => nomatch hname⟩
  have hcovers (b : Bindings) : b.Covers how.table?.toList := fun table ht =>
    Bindings.supplies_of_placeholders_eq_nil (htable table (Option.mem_toList.1 ht))
  simp [Query.texts, allColumns, hcovers]

namespace Session

/-! ## What is asked of the caller -/

/-- Every placeholder in the texts of the command has a value in the query that gets them, and no
sub-query is named by a placeholder. A new query has no values, and none is read from a snapshot. -/
def Provides (s : Session) : Command → Prop
  | .create _ how => how.readsState = false ∧ ∀ table ∈ how.table?, placeholders table = []
  | .call name c => ∀ q ∈ s.queries.get? name, ∀ d ∈ c.resolve s.queries.get?,
      q.bindings.Covers d.sqlTexts ∧ ∀ name ∈ d.names, placeholders name = []
  | _ => True

/-- Every command of the script provides for itself at its turn. -/
def ProvidesAll (s : Session) : List Command → Prop
  | [] => True
  | c :: cs => s.Provides c ∧ (s.step c).2.ProvidesAll cs

instance (s : Session) : (c : Command) → Decidable (s.Provides c)
  | .create _ _ => inferInstanceAs (Decidable (_ ∧ _))
  | .call _ _ => inferInstanceAs (Decidable (∀ q ∈ _, _))
  | .setDefaultBound _ | .compile _ | .literalText _ | .state _ | .equals _ _ | .exec _ _ =>
    .isTrue trivial

instance decidableProvidesAll : (s : Session) → (cs : List Command) → Decidable (s.ProvidesAll cs)
  | _, [] => .isTrue trivial
  | s, c :: cs =>
    have := decidableProvidesAll (s.step c).2 cs
    inferInstanceAs (Decidable (_ ∧ _))

/-! ## Closed sessions -/

/-- Every query is closed. -/
def Closed (s : Session) : Prop := ∀ name q, s.queries.get? name = some q → q.Closed

theorem Closed.insert {s : Session} (h : s.Closed) {q : Query} (hq : q.Closed) (name : String)
    (lastId : Nat) : Closed { s with queries := s.queries.insert name q, lastId := lastId } :=
  fun _ _ => forall_insert (P := fun _ q => q.Closed) hq fun other r _ => h other r

theorem closed_step {s : Session} (h : s.Closed) {c : Command} (hc : s.Provides c) :
    (s.step c).2.Closed := by
  generalize ht : (s.step c).2 = t
  have hmoves := ht ▸ s.moves_step c
  cases hmoves with
  | rests _ hqueries _ => exact fun name q hq => h name q (hqueries ▸ hq)
  | creates name hq =>
    refine h.insert ?_ name s.lastId
    rcases Creation.query_cases hq hc.1 with ⟨other, hother⟩ | hbegins
    · exact h other _ hother
    · exact hbegins.closed hc.2
  | calls hq hd =>
    obtain ⟨htexts, hnames⟩ := hc _ hq _ hd
    refine h.insert (Call.closed_run (h _ _ hq) htexts hnames fun r hr => ?_) _ _
    obtain ⟨other, hother⟩ := Call.mem_queries_resolve hd r hr
    exact h other r hother

theorem closed_run {s : Session} (h : s.Closed) {cs : List Command} (hcs : s.ProvidesAll cs) :
    (s.run cs).2.Closed := by
  induction cs generalizing s with
  | nil => exact h
  | cons c cs ih => exact ih (closed_step h hcs.1) hcs.2

theorem ProvidesAll.of_prefix {s : Session} {before cs : List Command} (h : s.ProvidesAll cs)
    (hbefore : before <+: cs) : s.ProvidesAll before := by
  induction before generalizing s cs with
  | nil => trivial
  | cons c before ih =>
    obtain ⟨rest, rfl⟩ := hbefore
    exact ⟨h.1, ih h.2 (List.prefix_append before rest)⟩

/-- **No placeholder goes without a value.** In a run from no queries in which the caller hands
over no placeholder that the query does not store, every placeholder in every text of every query
is stored at every point of the run, after calls that failed as well; and so no query fails for
want of a value where it is compiled, with bound parameters or without. -/
theorem nothing_goes_unbound {s : Session} (hs : s.queries = .empty) {cs before : List Command}
    (hcs : s.ProvidesAll cs) (hbefore : before <+: cs) {name : String} {q : Query}
    (hq : (s.run before).2.queries.get? name = some q) :
    (∀ text ∈ q.texts, ∀ t ∈ placeholders text, (q.bindings.get? t).isSome) ∧
      ∀ bound t, Query.compile { q with boundParameters := bound } ≠ .error (.unbound t) := by
  have hempty : s.Closed := fun name q hq => by
    rw [hs] at hq
    cases hq
  have hclosed := closed_run hempty (hcs.of_prefix hbefore) name q hq
  have hbound (bound : Bool) : Query.Closed { q with boundParameters := bound } :=
    ⟨hclosed.texts, hclosed.name⟩
  exact ⟨hclosed.texts, fun bound => (hbound bound).compile_ne_unbound⟩

/-- A query in a query in a query, after a call on the outermost one that fails half way. -/
def nested : List Command :=
  [.create "inner" (.actingOn .select "t"), .call "inner" (.insertBinding "least" (.int 7)),
    .call "inner" (.whereClause (.raw "a >= {{least}}")),
    .create "middle" (.acting .select), .call "middle" (.fromSubquery "inner" (some "s")),
    .call "middle" (.whereEq (.raw "b") (.value (.text "{{none}}"))),
    .create "outer" (.actingOn .select "u"),
    .call "outer" (.whereEq (.raw "c") (.list [.value (.int 1), .list []])),
    .call "outer" (.joinWith none (.query "middle") { usingColumns := ["a"] }),
    .call "outer" (.whereClause (.list [.query "inner", .raw "d < {{least}}"]))]

theorem nested_bound :
    ({} : Session).queries = .empty ∧ ({} : Session).ProvidesAll nested ∧ nested <+: nested ∧
      ∃ q, (run {} nested).2.queries.get? "outer" = some q ∧
        ((∀ text ∈ q.texts, ∀ t ∈ placeholders text, (q.bindings.get? t).isSome) ∧
          ∀ bound t, Query.compile { q with boundParameters := bound } ≠ .error (.unbound t)) ∧
        q.compile.toOption.map Compiled.data =
          some [.int 7, .text "{{none}}", .int 7, .int 7] := by
  have hprovides : ({} : Session).ProvidesAll nested := by decide +kernel
  have hdata : ((run {} nested).2.queries.get? "outer").map
      (fun q => q.compile.toOption.map Compiled.data) =
        some (some [.int 7, .text "{{none}}", .int 7, .int 7]) := by decide +kernel
  obtain ⟨q, hq, hcompile⟩ := Option.map_eq_some_iff.1 hdata
  exact ⟨rfl, hprovides, List.prefix_rfl, q, hq,
    nothing_goes_unbound rfl hprovides List.prefix_rfl hq, hcompile⟩

end Session
end SqlBuilder
