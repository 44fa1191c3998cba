import Mathlib.Logic.Function.Basic
import SqlBuilder.Session

/-!
# What a command does to the queries of a session

Of all commands only a creation and a call touch the queries and the counter, and either touches
one query. `Session.Moves` lists the three ways a session can go on, and `Session.moves_step` says
that every command goes one of them, whatever its answer is; so an invariant of sessions is shown
for these three.

A new query that does not come from a snapshot is a copy, or it is blank but for its settings
(`Creation.query_cases`).

What is put down about each query beside a session goes along with it: the record of a copy is that
of the original, and a blank query has none (`Session.recordCreation`). So what is true of the
queries and their records is still true after a creation (`Session.recorded_creation`).
-/

namespace SqlBuilder

namespace Creation

/-- The creation reads the state of the query, from a snapshot. -/
def readsState : Creation → Bool
  | snapshot _ | reread _ => true
  | _ => false

/-- The table that a new query begins with. -/
def table? : Creation → Option String
  | actingOn _ table => some table
  | _ => none

/-- The query has nothing but its kind, its settings and the table it begins with. -/
def Begins (how : Creation) (q : Query) : Prop :=
  q = { action := q.action, insertMode := q.insertMode, tableName := how.table?,
        boundParameters := q.boundParameters, debug := q.debug }

theorem configure_eq (settings : List Setting) (q : Query) :
    ∃ bound debug, settings.foldl configure q =
      { q with boundParameters := bound, debug := debug } := by
  induction settings generalizing q with
  | nil => exact ⟨q.boundParameters, q.debug, rfl⟩
  | cons setting settings ih =>
    obtain ⟨bound, debug, h⟩ := ih (configure q setting)
    rw [List.foldl_cons, h]
    cases setting <;> exact ⟨bound, debug, rfl⟩

/-- A new query whose state was not read is a copy or begins anew. -/
theorem query_cases {how : Creation} {s : Session} {q : Query}
    (h : how.query s s.fresh = .ok q) (hhow : how.readsState = false) :
    (∃ name, s.queries.get? name = some q) ∨ how.Begins q := by
  cases how with
  | blank | acting _ | inserting _ | actingOn _ _ =>
    cases h
    exact .inr rfl
  | configured settings =>
    obtain ⟨bound, debug, heq⟩ := configure_eq settings s.fresh
    cases h
    rw [heq]
    exact .inr rfl
  | snapshot j | reread name => cases hhow
  | copy name =>
    refine .inl ⟨name, ?_⟩
    rw [query] at h
    cases hname : s.queries.get? name with
    | none =>
      rw [hname] at h
      cases h
    | some r =>
      rw [hname] at h
      cases h
      rfl

end Creation

/-- The command reads the state of a query from a snapshot. -/
def Command.readsState : Command → Bool
  | .create _ how => how.readsState
  | _ => false

namespace Session

/-- The ways in which a session goes on under a command. -/
inductive Moves (s : Session) : Command → Session → Prop
  | rests (c : Command) {t : Session} (hqueries : t.queries = s.queries)
    (hlastId : t.lastId = s.lastId) : Moves s c t
  | creates (name : String) {how : Creation} {q : Query} (h : how.query s s.fresh = .ok q) :
    Moves s (.create name how) { s with queries := s.queries.insert name q }
  | calls {name : String} {c : Call String} {q : Query} {d : Call Query}
    (hq : s.queries.get? name = some q) (hd : c.resolve s.queries.get? = some d) :
    Moves s (.call name c)
      { s with
        queries := s.queries.insert name (d.run ⟨q, s.lastId, []⟩).2.query
        lastId := (d.run ⟨q, s.lastId, []⟩).2.lastId }

/-- A query that is put into a session is the only one that is new there. -/
theorem forall_insert {s : Session} {P : String → Query → Prop} {name : String} {q : Query}
    (hq : P name q)
    (h : ∀ other r, other ≠ name → s.queries.get? other = some r → P other r) {other : String}
    {r : Query} (hr : (s.queries.insert name q).get? other = some r) : P other r := by
  rw [Dict.get?_insert] at hr
  by_cases hname : name = other
  · subst hname
    rw [if_pos rfl] at hr
    exact Option.some.inj hr ▸ hq
  · rw [if_neg hname] at hr
    exact h other r (Ne.symm hname) hr

section Records

variable {ρ : Type} {s : Session} {r : String → ρ} {P : Query → ρ → Prop}

/-- A query that is put into a session with its record is the only one that is new there. -/
theorem forall_update (h : ∀ name q, s.queries.get? name = some q → P q (r name)) {q : Query}
    {x : ρ} (hq : P q x) (name : String) {other : String} {p : Query}
    (hp : (s.queries.insert name q).get? other = some p) :
    P p (Function.update r name x other) := by
  refine forall_insert (P := fun other p => P p (Function.update r name x other)) ?_ ?_ hp
  · rwa [Function.update_self]
  · intro other p hother hp
    rw [Function.update_of_ne hother]
    exact h other p hp

/-- What is on record after a creation. A copy goes on from the record of the original. -/
def recordCreation (s : Session) (r : String → ρ) (blank : ρ) (name : String) :
    Creation → String → ρ
  | .copy other =>
    if (s.queries.get? other).isSome then Function.update r name (r other) else r
  | _ => Function.update r name blank

/-- A record after a creation is blank or was there before. -/
theorem recordCreation_cases (blank : ρ) (name : String) (how : Creation) (other : String) :
    s.recordCreation r blank name how other = blank ∨
      ∃ third, s.recordCreation r blank name how other = r third := by
  have hupdate (x : ρ) (hx : x = blank ∨ ∃ third, x = r third) :
      Function.update r name x other = blank ∨
        ∃ third, Function.update r name x other = r third := by
    by_cases hother : other = name
    · rwa [hother, Function.update_self]
    · exact .inr ⟨other, Function.update_of_ne hother x r⟩
  cases how with
  | copy third =>
    by_cases hthird : (s.queries.get? third).isSome
    · rw [recordCreation, if_pos hthird]
      exact hupdate _ (.inr ⟨third, rfl⟩)
    · rw [recordCreation, if_neg hthird]
      exact .inr ⟨other, rfl⟩
  | _ => exact hupdate blank (.inl rfl)

/-- The queries match their records after a creation, if they did before and a query that begins
anew matches the blank record. -/
theorem recorded_creation (h : ∀ name q, s.queries.get? name = some q → P q (r name)) {blank : ρ}
    {how : Creation} (hhow : how.readsState = false) (hblank : ∀ q, how.Begins q → P q blank)
    (name : String) {other : String} {p : Query}
    (hp : (s.step (.create name how)).2.queries.get? other = some p) :
    P p (s.recordCreation r blank name how other) := by
  have hnew {q : Query} (hq : how.query s s.fresh = .ok q) {x : ρ} (hx : P q x) :
      P p (Function.update r name x other) := by
    simp only [step, hq] at hp
    exact forall_update h hx name hp
  cases how with
  | copy third =>
    cases hthird : s.queries.get? third with
    | none =>
      have hnone : Creation.query s s.fresh (.copy third) = .error .noQuery := by
        rw [Creation.query, hthird]
        rfl
      simp only [step, hnone] at hp
      rw [recordCreation, hthird]
      exact h other p hp
    | some q =>
      rw [recordCreation, hthird]
      exact hnew (by rw [Creation.query, hthird]; rfl) (h third q hthird)
  | blank | acting _ | inserting _ | actingOn _ _ => exact hnew rfl (hblank _ rfl)
  | configured settings =>
    obtain ⟨bound, debug, heq⟩ := Creation.configure_eq settings s.fresh
    refine hnew rfl (hblank _ ?_)
    rw [heq]
    rfl
  | snapshot _ | reread _ => cases hhow

end Records

theorem moves_step (s : Session) (c : Command) : s.Moves c (s.step c).2 := by
  cases c with
  | create name how =>
    simp only [step]
    split
    · rename_i q hq
      exact .creates name hq
    · exact .rests _ rfl rfl
  | call name c =>
    simp only [step]
    split
    · rename_i q d hq hd
      exact .calls hq hd
    · exact .rests _ rfl rfl
  | setDefaultBound _ | compile _ | literalText _ | state _ | equals _ _ | exec _ _ =>
    exact .rests _ rfl rfl

end Session
end SqlBuilder
