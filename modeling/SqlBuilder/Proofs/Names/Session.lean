import SqlBuilder.Proofs.Session
import SqlBuilder.Proofs.Supply.Call

/-!
# Generated names over a whole session

All queries of a session draw on one counter. `Session.ledger` lists, command by command, the names
that a run generates, and with every placeholder the value it was generated for. The list is read
off the states before and after each command; that it is what the commands really generated is
`Session.Generates`.

**The invariant** (`Session.Accounted`). The names listed so far bear the numbers counted so far,
and a generated placeholder in the bindings of any query has the value it is listed with. One
command keeps this up (`accounted_step`), provided that the caller stores no value under a
placeholder of the generated form. A placeholder can then come into a query from nowhere but its
own generation or another query that holds it.
-/

namespace SqlBuilder

open Binder (tokenOf)

/-- The name with a given number, as the bindings tell it after it was generated: a placeholder if
they hold a value for it. -/
def Generated.seenIn (b : Bindings) (n : Nat) : Generated :=
  match b.get? (tokenOf n) with
  | some v => .token n v
  | none => .subquery n

namespace Binder.Grows

variable {S : String → Value → Prop} {b c : Binder} {names : List Generated}

theorem seenIn_number (h : Grows S b names c)
    (hb : ∀ n v, b.bindings.get? (tokenOf n) = some v → n ≤ b.lastId)
    (hS : ∀ n v, S (tokenOf n) v → n ≤ b.lastId) {g : Generated} (hg : g ∈ names) :
    Generated.seenIn c.bindings g.number = g := by
  have hlt := (h.numbered.le_of_mem hg).1
  have hheld {v : Value} (hv : c.bindings.get? (tokenOf g.number) = some v) :
      .token g.number v = g := by
    rcases h.get?_cases hv with hv | hv | ⟨n, hn, hmem⟩
    · exact absurd (hb _ _ hv) (by omega)
    · exact absurd (hS _ _ hv) (by omega)
    · exact h.numbered.eq_of_number_eq (tokenOf_injective hn ▸ hmem) hg rfl
  unfold Generated.seenIn
  split
  · rename_i v hv
    exact hheld hv
  · rename_i hnone
    cases g with
    | token n v =>
      have hsome := h.isSome_get?_of_mem hg
      rw [Generated.number] at hnone
      rw [hnone] at hsome
      cases hsome
    | subquery n => rfl

/-- What was generated can be read off the bindings, if no placeholder in them is ahead of the
counter. -/
theorem names_eq (h : Grows S b names c)
    (hb : ∀ n v, b.bindings.get? (tokenOf n) = some v → n ≤ b.lastId)
    (hS : ∀ n v, S (tokenOf n) v → n ≤ b.lastId) :
    names = (List.range' (b.lastId + 1) (c.lastId - b.lastId)).map (Generated.seenIn c.bindings) := by
  have hlength : c.lastId - b.lastId = names.length := by
    rw [h.lastId_eq]
    omega
  calc names = names.map fun g => Generated.seenIn c.bindings g.number := by
        conv_lhs => rw [← List.map_id names]
        exact List.map_congr_left fun g hg => (h.seenIn_number hb hS hg).symm
    _ = (names.map Generated.number).map (Generated.seenIn c.bindings) := by
        rw [List.map_map]
        rfl
    _ = _ := by rw [h.numbered, hlength]

end Binder.Grows

/-! ## Scripts -/

/-- The command neither reads the state of a query from a snapshot nor stores a value under a
placeholder of the generated form. -/
def Command.Unforged : Command → Prop
  | .create _ how => how.readsState = false
  | .call _ (.insertBinding name _) => ∀ n, Bindings.key name ≠ tokenOf n
  | _ => True

theorem Call.eq_insertBinding_of_resolve {Q R : Type} {find? : Q → Option R} {c : Call Q}
    {name : String} {v : Value} (h : c.resolve find? = some (.insertBinding name v)) :
    c = .insertBinding name v := by
  cases c with
  | insertBinding name v =>
    cases h
    rfl
  | fromSubquery _ _ | columns _ | selectColumns _ | addColumn _ _ | addCondition _ _ _ _
  | join _ _ =>
    obtain ⟨_, -, h⟩ := Option.map_eq_some_iff.1 h
    cases h
  | _ => cases h

namespace Session

/-! ## The ledger -/

/-- The bindings of the query that a command was made on, after the command. -/
def bindingsAfter (s : Session) : Command → Bindings
  | .call name c => ((s.step (.call name c)).2.queries.get? name).elim .empty Query.bindings
  | _ => .empty

/-- The names that a command generates, in order: one for each number it draws. -/
def generated (s : Session) (c : Command) : List Generated :=
  (List.range' (s.lastId + 1) ((s.step c).2.lastId - s.lastId)).map
    (Generated.seenIn (s.bindingsAfter c))

/-- The names that a script generates, in order. -/
def ledger (s : Session) : List Command → List Generated
  | [] => []
  | c :: cs => s.generated c ++ (s.step c).2.ledger cs

/-- The names are those a command generates. A call generates what it binds and what it names, and
all it does besides to the bindings of its query is to add what it brings along; other commands
draw no number. -/
inductive Generates (s : Session) : Command → List Generated → Prop
  | nothing {c : Command} (h : (s.step c).2.lastId = s.lastId) : Generates s c []
  | call {name : String} {c : Call String} {q : Query} {d : Call Query} {names : List Generated}
    (hq : s.queries.get? name = some q) (hd : c.resolve s.queries.get? = some d)
    (h : Binder.Grows d.Brings ⟨q.bindings, s.lastId, []⟩ names
      (d.run ⟨q, s.lastId, []⟩).2.binder) : Generates s (.call name c) names

theorem ledger_append (s : Session) (before after : List Command) :
    s.ledger (before ++ after) = s.ledger before ++ (s.run before).2.ledger after := by
  induction before generalizing s with
  | nil => rfl
  | cons c before ih =>
    rw [List.cons_append, ledger, ih, ← List.append_assoc]
    rfl

/-! ## The invariant -/

/-- What a call brings along under a generated placeholder is in a query already. -/
theorem held_of_brings {s : Session} {name : String} {c : Call String}
    (hc : (Command.call name c).Unforged) {d : Call Query}
    (hd : c.resolve s.queries.get? = some d) {n : Nat} {v : Value} (hv : d.Brings (tokenOf n) v) :
    ∃ other q, s.queries.get? other = some q ∧ q.bindings.get? (tokenOf n) = some v := by
  cases hv with
  | query q hq hv =>
    obtain ⟨other, hother⟩ := Call.mem_queries_resolve hd q hq
    exact ⟨other, q, hother, hv⟩
  | stored key w hdc hk hv =>
    subst hdc
    obtain rfl := Call.eq_insertBinding_of_resolve hd
    exact absurd hk.symm (hc n)

/-- The names bear the numbers counted since `start`, and every generated placeholder in the
bindings of a query is listed with its value. -/
structure Accounted (start : Nat) (names : List Generated) (s : Session) : Prop where
  numbered : Numbered start names
  lastId : s.lastId = start + names.length
  held : ∀ name q n v, s.queries.get? name = some q → q.bindings.get? (tokenOf n) = some v →
    .token n v ∈ names

namespace Accounted

variable {start : Nat} {names : List Generated} {s : Session}

/-- No placeholder is ahead of the counter. -/
theorem le_lastId (h : s.Accounted start names) {name : String} {q : Query}
    (hq : s.queries.get? name = some q) {n : Nat} {v : Value}
    (hv : q.bindings.get? (tokenOf n) = some v) : n ≤ s.lastId := by
  have hle := (h.numbered.le_of_mem (h.held name q n v hq hv)).2
  rw [h.lastId]
  exact hle

end Accounted

/-- **One command keeps the account.** What it generates comes at the end of the list. -/
theorem accounted_step {start : Nat} {names : List Generated} {s : Session}
    (h : s.Accounted start names) {c : Command} (hc : c.Unforged) :
    (s.step c).2.Accounted start (names ++ s.generated c) ∧ s.Generates c (s.generated c) := by
  have hnothing (hlastId : (s.step c).2.lastId = s.lastId) : s.generated c = [] := by
    rw [generated, hlastId, Nat.sub_self]
    rfl
  generalize ht : (s.step c).2 = t
  have hmoves := ht ▸ s.moves_step c
  cases hmoves with
  | rests _ hqueries hlastId =>
    have hstep : (s.step c).2.lastId = s.lastId := by rw [ht, hlastId]
    rw [hnothing hstep, List.append_nil]
    exact ⟨⟨h.numbered, hlastId.trans h.lastId, hqueries ▸ h.held⟩, .nothing hstep⟩
  | @creates name how q hq =>
    have hstep : (s.step (.create name how)).2.lastId = s.lastId := by rw [ht]
    rw [hnothing hstep, List.append_nil]
    refine ⟨⟨h.numbered, h.lastId, fun other r n v hr hv => ?_⟩, .nothing hstep⟩
    simp only [Dict.get?_insert] at hr
    split at hr
    · obtain rfl := Option.some.inj hr
      rcases Creation.query_cases hq hc with ⟨old, hold⟩ | hbegins
      · exact h.held old q n v hold hv
      · rw [hbegins] at hv
        cases hv
    · exact h.held other r n v hr hv
  | @calls name c q d hq hd =>
    obtain ⟨new, hnew⟩ := d.run_grows ⟨q, s.lastId, []⟩
    have hgenerated : s.generated (.call name c) = new := by
      have hafter : s.bindingsAfter (.call name c) = (d.run ⟨q, s.lastId, []⟩).2.query.bindings := by
        simp [bindingsAfter, ht]
      rw [generated, hafter, ht]
      refine (hnew.names_eq (fun n v hv => h.le_lastId hq hv) fun n v hv => ?_).symm
      obtain ⟨other, r, hr, hv⟩ := held_of_brings hc hd hv
      exact h.le_lastId hr hv
    rw [hgenerated]
    refine ⟨⟨h.numbered.append ?_, ?_, fun other r n v hr hv => ?_⟩, .call hq hd hnew⟩
    · exact h.lastId ▸ hnew.numbered
    · rw [List.length_append, ← Nat.add_assoc, ← h.lastId]
      exact hnew.lastId_eq
    · simp only [Dict.get?_insert] at hr
      split at hr
      · obtain rfl := Option.some.inj hr
        rcases hnew.get?_cases hv with hv | hv | ⟨m, hm, hmem⟩
        · exact List.mem_append_left _ (h.held name q n v hq hv)
        · obtain ⟨old, r, hr, hv⟩ := held_of_brings hc hd hv
          exact List.mem_append_left _ (h.held old r n v hr hv)
        · exact List.mem_append_right _ (Binder.tokenOf_injective hm ▸ hmem)
      · exact List.mem_append_left _ (h.held other r n v hr hv)

theorem accounted_run {start : Nat} {names : List Generated} {s : Session}
    (h : s.Accounted start names) {cs : List Command} (hcs : ∀ c ∈ cs, c.Unforged) :
    (s.run cs).2.Accounted start (names ++ s.ledger cs) := by
  induction cs generalizing s names with
  | nil =>
    rw [ledger, List.append_nil]
    exact h
  | cons c cs ih =>
    rw [ledger, ← List.append_assoc]
    exact ih (accounted_step h (hcs c (by simp))).1 fun d hd => hcs d (by simp [hd])

theorem accounted_of_empty {s : Session} (hs : s.queries = .empty) :
    s.Accounted s.lastId [] :=
  ⟨.nil _, rfl, fun _ _ _ _ hq _ => by
    rw [hs] at hq
    cases hq⟩

/-! ## Keys -/

/-- No key gets lost in a command, unless a new query takes the name of the one that has it. -/
theorem keys_step {s : Session} {c : Command} {name : String} {q : Query}
    (hq : s.queries.get? name = some q) (hc : ∀ how, c ≠ .create name how) :
    ∃ r, (s.step c).2.queries.get? name = some r ∧
      ∀ k, (q.bindings.get? k).isSome → (r.bindings.get? k).isSome := by
  generalize ht : (s.step c).2 = t
  have hmoves := ht ▸ s.moves_step c
  cases hmoves with
  | rests _ hqueries _ => exact ⟨q, hqueries ▸ hq, fun _ => id⟩
  | @creates other how r hr =>
    have hne : other ≠ name := fun heq => hc how (heq ▸ rfl)
    exact ⟨q, by simpa [hne] using hq, fun _ => id⟩
  | @calls other c r d hr hd =>
    by_cases heq : other = name
    · subst heq
      obtain rfl := Option.some.inj (hq.symm.trans hr)
      obtain ⟨new, hnew⟩ := d.run_grows ⟨q, s.lastId, []⟩
      exact ⟨_, by simp, fun k hk => hnew.isSome_get? hk⟩
    · exact ⟨q, by simpa [heq] using hq, fun _ => id⟩

/-! ## Runs -/

/-- A script that forges no placeholder leads to the session from one without queries. -/
def Unforged (s : Session) : Prop :=
  ∃ start : Session, ∃ cs : List Command,
    start.queries = .empty ∧ (∀ c ∈ cs, c.Unforged) ∧ s = (start.run cs).2

theorem Unforged.accounted {s : Session} (h : s.Unforged) :
    ∃ start names, s.Accounted start names := by
  obtain ⟨start, cs, hstart, hcs, rfl⟩ := h
  exact ⟨_, _, accounted_run (accounted_of_empty hstart) hcs⟩

/-- No generated placeholder in a query is ahead of the counter. -/
theorem Unforged.le_lastId {s : Session} (h : s.Unforged) {name : String} {q : Query}
    (hq : s.queries.get? name = some q) {n : Nat} {v : Value}
    (hv : q.bindings.get? (tokenOf n) = some v) : n ≤ s.lastId := by
  obtain ⟨start, names, h⟩ := h.accounted
  exact h.le_lastId hq hv

theorem Unforged.not_ahead {s : Session} (h : s.Unforged) {name : String} {q : Query}
    (hq : s.queries.get? name = some q) {n : Nat} (hn : s.lastId < n) :
    q.bindings.get? (tokenOf n) = none :=
  Option.eq_none_iff_forall_ne_some.2 fun _ hv => absurd (h.le_lastId hq hv) (by omega)

/-- Two queries that hold a generated placeholder hold the same value for it. -/
theorem Unforged.agree {s : Session} (h : s.Unforged) {name other : String} {q r : Query}
    (hq : s.queries.get? name = some q) (hr : s.queries.get? other = some r) {n : Nat}
    {v w : Value} (hv : q.bindings.get? (tokenOf n) = some v)
    (hw : r.bindings.get? (tokenOf n) = some w) : v = w := by
  obtain ⟨start, names, h⟩ := h.accounted
  have heq := h.numbered.eq_of_number_eq (h.held name q n v hq hv) (h.held other r n w hr hw) rfl
  exact (Generated.token.inj heq).2

/-- **Generated names are new, and what they stand for stays.** In a run from no queries in which
the caller stores nothing under a placeholder of the generated form, all names generated are
different. A query that holds a generated placeholder, at whatever point of the run, holds for it
the one value it is generated for, and by then it has been generated. Each command generates the
names that are listed for it, and takes no key from the bindings of any query; of these the last
holds without a condition on the caller. -/
theorem generated_once_and_kept {s : Session} (hs : s.queries = .empty) {cs : List Command}
    (hcs : ∀ c ∈ cs, c.Unforged) :
    ((s.ledger cs).map Generated.text).Nodup ∧
      (∀ before after, cs = before ++ after → ∀ name q n w,
        (s.run before).2.queries.get? name = some q → q.bindings.get? (tokenOf n) = some w →
          .token n w ∈ s.ledger before ∧ ∀ v, .token n v ∈ s.ledger cs → v = w) ∧
      ∀ before c after, cs = before ++ c :: after →
        (s.run before).2.Generates c ((s.run before).2.generated c) ∧
          ∀ name q, (s.run before).2.queries.get? name = some q → (∀ how, c ≠ .create name how) →
            ∃ r, ((s.run before).2.step c).2.queries.get? name = some r ∧
              ∀ k, (q.bindings.get? k).isSome → (r.bindings.get? k).isSome := by
  have haccounted {before : List Command} (h : ∀ c ∈ before, c.Unforged) :
      (s.run before).2.Accounted s.lastId (s.ledger before) :=
    accounted_run (accounted_of_empty hs) h
  have hall := (haccounted hcs).numbered
  refine ⟨hall.nodup, ?_, ?_⟩
  · rintro before after rfl name q n w hq hw
    have hmem := (haccounted fun c hc => hcs c (by simp [hc])).held name q n w hq hw
    refine ⟨hmem, fun v hv => ?_⟩
    rw [ledger_append] at hall hv
    have heq := hall.eq_of_number_eq hv (List.mem_append_left _ hmem) rfl
    exact (Generated.token.inj heq).2
  · rintro before c after rfl
    have hbefore : (s.run before).2.Accounted s.lastId (s.ledger before) :=
      haccounted fun d hd => hcs d (by simp [hd])
    exact ⟨(accounted_step hbefore (hcs c (by simp))).2, fun name q hq hc => keys_step hq hc⟩

/-- A copy of a query, and each of the two in another one, after calls that fail. -/
def copied : List Command :=
  [.create "a" (.actingOn .select "t"), .call "a" (.whereEq (.raw "x") (.value (.int 5))),
    .create "b" (.copy "a"), .call "b" (.insertBinding "x" (.int 6)),
    .call "b" (.whereEq (.raw "y") (.list [.value (.text "{{binding1}}"), .list []])),
    .create "c" (.acting .select), .call "c" (.fromSubquery "a" none),
    .call "c" (.joinWith none (.query "b") { aliasName := some "b", usingColumns := ["x"] }),
    .call "c" (.columns [.query "c", .value (.int 7)])]

theorem copied_ledger :
    ({} : Session).queries = .empty ∧ (∀ c ∈ copied, c.Unforged) ∧
      ({} : Session).ledger copied =
        [.token 1 (.int 5), .token 2 (.text "{{binding1}}"), .subquery 3] ∧
      ((({} : Session).ledger copied).map Generated.text).Nodup ∧
      ∃ q, (run {} copied).2.queries.get? "c" = some q ∧
        q.bindings.get? (tokenOf 1) = some (.int 5) ∧
        .token 1 (.int 5) ∈ ({} : Session).ledger copied := by
  have hunforged : ∀ c ∈ copied, c.Unforged := by
    simp only [copied, List.forall_mem_cons]
    exact ⟨rfl, trivial, rfl, Binder.ne_tokenOf (by decide +kernel), trivial, rfl, trivial, trivial,
      trivial, List.forall_mem_nil _⟩
  have hvalue : ((run {} copied).2.queries.get? "c").map (·.bindings.get? (tokenOf 1)) =
      some (some (.int 5)) := by decide +kernel
  obtain ⟨q, hq, hv⟩ := Option.map_eq_some_iff.1 hvalue
  obtain ⟨hnew, hkept, -⟩ := generated_once_and_kept (s := {}) rfl hunforged
  exact ⟨rfl, hunforged, by decide +kernel, hnew, q, hq, hv,
    (hkept copied [] (List.append_nil _).symm "c" q 1 _ hq hv).1⟩

end Session
end SqlBuilder
