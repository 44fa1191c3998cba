import SqlBuilder.Proofs.Merging.TakesOver
import SqlBuilder.Proofs.Names.Session

/-!
# What a merge does to the receiver

Where one query is put into another one, the bindings it refers to are added to those of the
receiver and replace them under the same key. For generated placeholders this is harmless, since
all queries of a session that hold one hold the same value. A name of the caller's can stand for
different values in the two queries; then the value of the receiver is lost, and its clauses that
refer to the name compile with the value of the other query.

`merge_keeps_unless_clash` draws the line: the receiver's values are kept exactly where the two
queries do not clash, and it takes names of the caller's to make them clash.
-/

namespace SqlBuilder

open Binder (tokenOf)

/-- The call puts the query into another one, and takes over the bindings that the text refers to. -/
inductive Call.Merges : Call Query → Query → String → Prop
  | source (q : Query) (aliasName : Option String) :
    Merges (.fromSubquery q aliasName) q q.selectText
  | column (q : Query) (unique : Bool) : Merges (.addColumn (.query q) unique) q q.selectText
  | target (kind : Option JoinKind) (q : Query) (o : JoinOptions Query) :
    Merges (.joinWith kind (.query q) o) q q.selectText
  | group (q : Query) : Merges (.whereClause (.query q)) q (spaced q.group)

theorem Call.Merges.takesOver {c : Call Query} {q : Query} {text : String} (hc : c.Merges q text)
    {d e : Draft} {r : Option String} (h : c.run d = (.ok r, e)) :
    d.binder.TakesOver q text e.binder := by
  cases hc with
  | source => exact (run_fromSubquery h).2.2
  | column => exact (run_addColumn h).2.2
  | target => exact (run_joinWith h).2.2
  | group => exact (run_whereClause h).2.2

/-- The text refers to a placeholder for which the two queries hold different values. -/
def Query.Clash (p q : Query) (text t : String) : Prop :=
  t ∈ placeholders text ∧ ∃ v w, p.bindings.get? t = some v ∧ q.bindings.get? t = some w ∧ v ≠ w

namespace Session

/-- Generated placeholders never clash. -/
theorem Unforged.not_clash {s : Session} (h : s.Unforged) {name other : String} {p q : Query}
    (hp : s.queries.get? name = some p) (hq : s.queries.get? other = some q) (text : String)
    (n : Nat) : ¬ p.Clash q text (tokenOf n) := by
  rintro ⟨-, v, w, hv, hw, hne⟩
  exact hne (h.agree hp hq hv hw)

end Session

/-- **A merge keeps what does not clash.** After a call that puts a query into another one, a
placeholder the receiver stored has its value still if and only if the two queries do not clash
over it. In a session in which the caller stores nothing under a placeholder of the generated form,
no two queries clash over a generated placeholder. -/
theorem Call.merge_keeps_unless_clash {c : Call Query} {q : Query} {text : String}
    (hc : c.Merges q text) {d e : Draft} {r : Option String} (hrun : c.run d = (.ok r, e))
    {t : String} {v : Value} (hv : d.query.bindings.get? t = some v)
    (ht : ∀ n, d.lastId < n → t ≠ tokenOf n) :
    (e.query.bindings.get? t = some v ↔ ¬ d.query.Clash q text t) ∧
      ∀ s : Session, s.Unforged → ∀ name other, s.queries.get? name = some d.query →
        s.queries.get? other = some q → ∀ n, ¬ d.query.Clash q text (tokenOf n) := by
  refine ⟨?_, fun s hs name other hp hq n => hs.not_clash hp hq text n⟩
  have hget : e.query.bindings.get? t =
      if t ∈ placeholders text then (q.bindings.get? t).or (d.query.bindings.get? t)
      else d.query.bindings.get? t := (hc.takesOver hrun).get?_eq ht
  rw [hget, hv]
  by_cases hmem : t ∈ placeholders text
  · rw [if_pos hmem]
    cases hq : q.bindings.get? t with
    | none => simp [Query.Clash, hq]
    | some w =>
      simp only [Option.some_or, Option.some.injEq, Query.Clash, hmem, true_and, hv, hq]
      grind
  · simp [hmem, Query.Clash]

/-- Two queries, each with a condition on a value that its caller stores under a placeholder. -/
def asking (own other : String) : List Command :=
  [.create "s" (.acting .select), .call "s" (.table "t" none), .call "s" (.insertBinding other (.int 2)),
    .call "s" (Call.whereClause (.raw ("b = " ++ other))), .call "s" (.columns [.name "id"]),
    .call "s" (.asName "s"), .create "p" (.acting .select), .call "p" (.table "u" none),
    .call "p" (.insertBinding own (.int 1)), .call "p" (Call.whereClause (.raw ("a = " ++ own)))]

/-- The second query, about to be edited, and the first one. -/
def asked (own other : String) : Option (Draft × Query) :=
  let s := (Session.run {} (asking own other)).2
  (s.queries.get? "p").bind fun p => (s.queries.get? "s").map fun q => (⟨p, s.lastId, []⟩, q)

theorem asking_kept : ∃ d q e, asked "{{x}}" "{{y}}" = some (d, q) ∧
    (Call.addColumn (.query q) false).run d = (.ok none, e) ∧
      d.query.bindings.get? "{{x}}" = some (.int 1) ∧ (∀ n, d.lastId < n → "{{x}}" ≠ tokenOf n) ∧
        ¬ d.query.Clash q q.selectText "{{x}}" ∧
          e.query.bindings.get? "{{x}}" = some (.int 1) := by
  have h : (asked "{{x}}" "{{y}}").map (fun (d, q) => (((Call.addColumn (.query q) false).run d).1,
      d.query.bindings.get? "{{x}}", q.bindings.get? "{{x}}")) =
        some (.ok none, some (.int 1), none) := by decide +kernel
  obtain ⟨⟨d, q⟩, hasked, h⟩ := Option.map_eq_some_iff.1 h
  simp only [Prod.mk.injEq] at h
  obtain ⟨hok, hreceiver, hguest⟩ := h
  have hrun : (Call.addColumn (.query q) false).run d =
      (.ok none, ((Call.addColumn (.query q) false).run d).2) := Prod.ext hok rfl
  have hfresh (n : Nat) (_ : d.lastId < n) : "{{x}}" ≠ tokenOf n :=
    Binder.ne_tokenOf (by decide +kernel) n
  have hclash : ¬ d.query.Clash q q.selectText "{{x}}" := fun ⟨_, _, w, _, hw, _⟩ => by
    rw [hguest] at hw
    cases hw
  exact ⟨d, q, _, hasked, hrun, hreceiver, hfresh, hclash,
    (Call.merge_keeps_unless_clash (.column q false) hrun hreceiver hfresh).1.2 hclash⟩

/-- Under one placeholder the condition of the receiver gets the value of the other query. -/
theorem asking_overwritten : ∃ d q e, asked "{{x}}" "{{x}}" = some (d, q) ∧
    d.query.compile = .ok ⟨"SELECT * FROM `u` WHERE a = ?", [.int 1]⟩ ∧
      (Call.addColumn (.query q) false).run d = (.ok none, e) ∧
        "a = {{x}}" ∈ d.query.conditions ∧
          d.query.resolve "a = {{x}}" = .ok ⟨"a = ?", [.int 1]⟩ ∧
            e.query.resolve "a = {{x}}" = .ok ⟨"a = ?", [.int 2]⟩ := by
  have h : (asked "{{x}}" "{{x}}").map (fun (d, q) => (((Call.addColumn (.query q) false).run d).1,
      d.query.conditions, [d.query.compile, d.query.resolve "a = {{x}}",
        ((Call.addColumn (.query q) false).run d).2.query.resolve "a = {{x}}"])) =
      some (.ok none, ["a = {{x}}"], [.ok ⟨"SELECT * FROM `u` WHERE a = ?", [.int 1]⟩,
        .ok ⟨"a = ?", [.int 1]⟩, .ok ⟨"a = ?", [.int 2]⟩]) := by decide +kernel
  obtain ⟨⟨d, q⟩, hasked, h⟩ := Option.map_eq_some_iff.1 h
  simp only [Prod.mk.injEq, List.cons.injEq, and_true] at h
  obtain ⟨hok, hconditions, hcompile, hbefore, hafter⟩ := h
  exact ⟨d, q, _, hasked, hcompile, Prod.ext hok rfl, by simp [hconditions], hbefore, hafter⟩

end SqlBuilder
