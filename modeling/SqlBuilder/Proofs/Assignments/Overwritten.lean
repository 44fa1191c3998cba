import SqlBuilder.Proofs.Assignments.Places
import SqlBuilder.Proofs.Renaming.Plain

/-!
# Values of overwritten assignments

An assignment that is overwritten leaves its value behind in the bindings. If no SQL of the caller's
has a placeholder, nothing refers to it any more. Each placeholder of an assignment is then one that
was generated for it, so that no two assignments of a query share one (`Session.Apart.counted`), and
it stands in no text that queries lend to one another (`Session.Apart.lent`): assignments go into
no other clause and into no other query, and all that a call writes anew has new placeholders. So
with its assignment a placeholder leaves the query (`Session.Apart.not_mem_of_overwritten`), and
what is stored for it makes no difference to what the query compiles to (`Query.compile_storing`).

The list of assignments and its positions need nothing of the kind. That the last assignment to a
column wins in its place holds of every run in which no state is read from a snapshot
(`Session.assignments_last_write_wins`).
-/

namespace SqlBuilder

open Assignment
open Binder (tokenOf)

/-! ## Compiling without a value -/

namespace Query

/-- The query with a value stored under a key. -/
def storing (q : Query) (k : String) (v : Value) : Query :=
  { q with bindings := q.bindings.insert k v }

/-- A value under a key that no text of the query refers to makes no difference. -/
theorem compile_storing {q : Query} {k : String} (h : ∀ s ∈ q.texts, k ∉ placeholders s)
    (v : Value) : (q.storing k v).compile = q.compile := by
  have hwritten : (q.storing k v).written = q.written := rfl
  rw [compile_eq, compile_eq, hwritten]
  cases hw : q.written with
  | error f => rfl
  | ok w =>
    rcases written_eq_ok hw with ⟨a, -, rfl⟩ | ⟨-, rfl⟩
    · refine resolve_congr rfl fun t ht => ?_
      have hne : k ≠ t := by
        rintro rfl
        rw [placeholders_statementText] at ht
        obtain ⟨s, hs, ht⟩ := List.mem_flatMap.1 ht
        rcases mem_texts_of_mem_fragments hs with hs | rfl
        · exact h s hs ht
        · cases ht
      exact (Dict.get?_insert ..).trans (if_neg hne)
    · rfl

theorem literalText_storing {q : Query} {k : String} (h : ∀ s ∈ q.texts, k ∉ placeholders s)
    (v : Value) : (q.storing k v).literalText = q.literalText :=
  congrArg (Except.map _) (compile_storing (q := q.withLiterals) h v)

end Query

/-! ## Placeholders of assignments -/

theorem Plain.within {T : String → Prop} {texts : List String} (h : Plain texts) :
    Within T texts := by
  intro s hs t ht
  rw [plain_iff.1 h s hs] at ht
  cases ht

/-- A query that begins anew lends its columns, which are all, and its table. -/
theorem Creation.Begins.plain_lent {how : Creation} {q : Query} (h : how.Begins q)
    (htable : ∀ table ∈ how.table?, placeholders table = []) : SqlBuilder.Plain q.lent := by
  rw [h]
  refine plain_iff.2 fun text htext => ?_
  have htext : text = "*" ∨ text ∈ how.table? := by
    simpa [Query.lent, Query.shown, allColumns] using htext
  rcases htext with rfl | htext
  · exact Query.placeholders_star
  · exact htable text htext

/-- The placeholders in the texts are generated ones with ascending numbers, above `low` and up to
`high`. -/
def Ascends (low : Nat) (texts : List String) (high : Nat) : Prop :=
  ∃ ns : List Nat, texts.flatMap placeholders = ns.map tokenOf ∧ ns.Pairwise (· < ·) ∧
    ∀ n ∈ ns, low < n ∧ n ≤ high

namespace Ascends

variable {low mid high : Nat} {texts more : List String}

theorem of_plain (h : Plain texts) : Ascends low texts high :=
  ⟨[], List.flatMap_eq_nil_iff.2 (plain_iff.1 h), List.Pairwise.nil, fun _ hn => nomatch hn⟩

theorem of_eq (h : Ascends low texts high)
    (heq : more.flatMap placeholders = texts.flatMap placeholders) : Ascends low more high := by
  unfold Ascends
  rwa [heq]

theorem append (h : Ascends low texts mid) (hmore : Ascends mid more high) (hlow : low ≤ mid)
    (hhigh : mid ≤ high) : Ascends low (texts ++ more) high := by
  obtain ⟨ns, hns, hascending, hbounds⟩ := h
  obtain ⟨ms, hms, hascending', hbounds'⟩ := hmore
  refine ⟨ns ++ ms, ?_, ?_, fun n hn => ?_⟩
  · rw [List.flatMap_append, List.map_append, hns, hms]
  · refine List.pairwise_append.2 ⟨hascending, hascending', fun n hn m hm => ?_⟩
    exact Nat.lt_of_le_of_lt (hbounds n hn).2 (hbounds' m hm).1
  · rcases List.mem_append.1 hn with hn | hn
    · have := hbounds n hn
      omega
    · have := hbounds' n hn
      omega

theorem mono (h : Ascends low texts mid) (hhigh : mid ≤ high) : Ascends low texts high := by
  obtain ⟨ns, hns, hascending, hbounds⟩ := h
  refine ⟨ns, hns, hascending, fun n hn => ?_⟩
  have := hbounds n hn
  omega

theorem exists_of_mem (h : Ascends low texts high) {s t : String} (hs : s ∈ texts)
    (ht : t ∈ placeholders s) : ∃ n, low < n ∧ n ≤ high ∧ t = tokenOf n := by
  obtain ⟨ns, hns, -, hbounds⟩ := h
  have hmem : t ∈ ns.map tokenOf := hns ▸ List.mem_flatMap.2 ⟨s, hs, ht⟩
  obtain ⟨n, hn, rfl⟩ := List.mem_map.1 hmem
  exact ⟨n, (hbounds n hn).1, (hbounds n hn).2, rfl⟩

theorem nodup (h : Ascends low texts high) : (texts.flatMap placeholders).Nodup := by
  obtain ⟨ns, hns, hascending, -⟩ := h
  rw [hns]
  exact (hascending.imp Nat.ne_of_lt).map tokenOf fun m n hne heq =>
    hne (Binder.tokenOf_injective heq)

end Ascends

theorem placeholders_applied_of_plain {modifier : Option String} (h : Plain modifier.toList)
    (text : String) : placeholders (Binder.applied modifier text) = placeholders text := by
  have hm : modifier.toList.flatMap placeholders = [] := List.flatMap_eq_nil_iff.2 (plain_iff.1 h)
  rw [Binder.placeholders_applied, hm, List.nil_append]

theorem Numbering.value_ascends {v : Value} {modifier : Option String}
    (hmodifier : Plain modifier.toList) {lastId n : Nat} {text : String}
    (h : Numbering.value v modifier lastId = some (text, n)) : Ascends lastId [text] n := by
  unfold Numbering.value at h
  cases hv : Binder.inline? v with
  | some word =>
    rw [hv] at h
    cases h
    refine .of_plain (plain_iff.2 fun s hs => ?_)
    rw [List.mem_singleton.1 hs]
    exact Binder.placeholders_of_inline hv
  | none =>
    rw [hv] at h
    cases h
    refine ⟨[lastId + 1], ?_, List.pairwise_singleton _ _, fun n hn => ?_⟩
    · simp [placeholders_applied_of_plain hmodifier]
    · rw [List.mem_singleton.1 hn]
      omega

/-- What is assigned is plain but for a placeholder with the next number. -/
theorem Assignment.rightSide_ascends {v : Operand} {modifier : Option String}
    (hv : Plain v.sqlTexts) (hmodifier : Plain modifier.toList) {lastId n : Nat} {right : String}
    (h : rightSide v modifier lastId = some (right, n)) : Ascends lastId [right] n := by
  cases v with
  | raw sql =>
    cases h
    exact .of_plain hv
  | value v => exact Numbering.value_ascends hmodifier h
  | data v own =>
    have hown : Plain (own.or modifier).toList := by
      cases own with
      | none => exact hmodifier
      | some m => exact hv
    exact Numbering.value_ascends hown h
  | list _ | object _ => cases h

namespace Edit

theorem setEach_ascends {modifier : Option String} (hmodifier : Plain modifier.toList)
    {fs : List (String × Operand)} (hfs : Plain (Operand.sqlTextsOfFields fs)) (d : Draft) :
    Ascends d.lastId ((accepted modifier fs d.lastId).map Assignment.text)
      (setEach modifier fs d).2.lastId := by
  induction fs generalizing d with
  | nil => exact .of_plain (Bindings.covers_nil _)
  | cons e fs ih =>
    obtain ⟨column, v⟩ := e
    obtain ⟨hfirst, hrest⟩ := Bindings.covers_append.1 hfs
    obtain ⟨-, hv⟩ := Bindings.covers_cons.1 hfirst
    have hcolumn : placeholders column = [] := plain_iff.1 hfirst column List.mem_cons_self
    rw [setEach, accepted]
    rcases set_cases column v modifier d with
      ⟨hnone, f, e, b, hset, -⟩ | ⟨right, e, b, hright, hset, -⟩
    · rw [bind_of_error hset, hnone]
      exact .of_plain (Bindings.covers_nil _)
    · have hle : d.lastId ≤ (set column v modifier d).2.lastId :=
        (set_writes (S := fun _ _ => True) column v modifier).le_lastId d
      have hassigned : Ascends d.lastId [column ++ " = " ++ right] e.lastId := by
        have hglue : placeholders (column ++ " = " ++ right) = placeholders right := by
          rw [placeholders_glue (by decide), hcolumn, List.nil_append]
        refine (rightSide_ascends hv hmodifier hright).of_eq ?_
        rw [List.flatMap_singleton, List.flatMap_singleton, hglue]
      have hle' : e.lastId ≤ (setEach modifier fs e).2.lastId :=
        (setEach_writes (S := fun _ _ => True) modifier fs).le_lastId e
      rw [hset] at hle
      rw [bind_of_ok hset, hright]
      exact hassigned.append (ih hrest e) hle hle'

end Edit

/-- The assignments of a call have new placeholders. -/
theorem Call.assigned_ascends {c : Call Query} (hc : SqlBuilder.Plain c.sqlTexts) (d : Draft) :
    Ascends d.lastId ((c.assigned d.lastId).map Assignment.text) (c.run d).2.lastId := by
  rw [run_snd]
  cases c with
  | setRaw statement => exact .of_plain hc
  | set column v modifier =>
    obtain ⟨hfield, hmodifier⟩ := Bindings.covers_append.1 hc
    have hfields : SqlBuilder.Plain (Operand.sqlTextsOfFields [(column, v)]) := by
      simpa [Operand.sqlTextsOfFields] using hfield
    have hset := Edit.setEach_ascends hmodifier hfields d
    rwa [Edit.setEach_singleton] at hset
  | setFields f modifier =>
    obtain ⟨hf, hmodifier⟩ := Bindings.covers_append.1 hc
    exact Edit.setEach_ascends hmodifier hf d
  | insertFields mode f =>
    exact Edit.setEach_ascends (Bindings.covers_nil _) hc (Edit.insertInto mode d).2
  | _ => exact .of_plain (Bindings.covers_nil _)

/-! ## Sessions -/

/-- No SQL that the command hands over has a placeholder. -/
def Command.PlainSql : Command → Prop
  | .create _ how => ∀ table ∈ how.table?, placeholders table = []
  | .call _ c => SqlBuilder.Plain (c.sqlTexts ++ c.names)
  | .setDefaultBound _ | .compile _ | .literalText _ | .state _ | .equals _ _ | .exec _ _ => True

instance : (c : Command) → Decidable c.PlainSql
  | .create _ _ => inferInstanceAs (Decidable (∀ table ∈ _, _))
  | .call _ c => inferInstanceAs (Decidable (SqlBuilder.Plain (c.sqlTexts ++ c.names)))
  | .setDefaultBound _ | .compile _ | .literalText _ | .state _ | .equals _ _ | .exec _ _ =>
    .isTrue trivial

namespace Session

/-- The placeholder was generated, and for no assignment that is on record. -/
def Elsewhere (lastId : Nat) (r : Assigned) (t : String) : Prop :=
  (∃ n ≤ lastId, t = tokenOf n) ∧ ∀ name, ∀ a ∈ r name, t ∉ placeholders a.text

/-- The assignments of each query have placeholders of their own, which stand in no text that any
query lends to another one. -/
structure Apart (s : Session) (r : Assigned) : Prop where
  counted : ∀ name, Ascends 0 ((r name).map Assignment.text) s.lastId
  lent : ∀ name q, s.queries.get? name = some q → Within (Elsewhere s.lastId r) q.lent

variable {s : Session} {r : Assigned}

/-- What stood elsewhere still does when there are more assignments, with new placeholders. -/
theorem Elsewhere.more {lastId high : Nat} {t : String} (h : Elsewhere lastId r t)
    (hle : lastId ≤ high) {more : List Assignment}
    (hmore : Ascends lastId (more.map Assignment.text) high) (name : String) :
    Elsewhere high (Function.update r name (r name ++ more)) t := by
  obtain ⟨⟨n, hn, rfl⟩, hnot⟩ := h
  refine ⟨⟨n, Nat.le_trans hn hle, rfl⟩, fun other a ha ht => ?_⟩
  by_cases hother : other = name
  · subst hother
    rw [Function.update_self] at ha
    rcases List.mem_append.1 ha with ha | ha
    · exact hnot other a ha ht
    · obtain ⟨m, hlt, -, heq⟩ := hmore.exists_of_mem (List.mem_map_of_mem ha) ht
      have := Binder.tokenOf_injective heq
      omega
  · rw [Function.update_of_ne hother] at ha
    exact hnot other a ha ht

theorem Apart.not_mem_of_lt (h : s.Apart r) {n : Nat} (hn : s.lastId < n) (name : String) :
    ∀ a ∈ r name, tokenOf n ∉ placeholders a.text := by
  intro a ha ht
  obtain ⟨m, -, hle, heq⟩ := (h.counted name).exists_of_mem (List.mem_map_of_mem ha) ht
  have := Binder.tokenOf_injective heq
  omega

/-- What a query lends after a call stands elsewhere than all assignments. -/
theorem Apart.lent_run (h : s.Apart r) {name : String} {q : Query}
    (hq : s.queries.get? name = some q) {c : Call Query}
    (hc : SqlBuilder.Plain (c.sqlTexts ++ c.names))
    (hqueries : ∀ p ∈ c.queries, ∃ other, s.queries.get? other = some p) :
    Within (Elsewhere (c.run ⟨q, s.lastId, []⟩).2.lastId
      (Function.update r name (r name ++ c.assigned s.lastId)))
        (c.run ⟨q, s.lastId, []⟩).2.query.lent := by
  obtain ⟨htexts, -⟩ := Bindings.covers_append.1 hc
  have hle := c.le_lastId_run ⟨q, s.lastId, []⟩
  have hmore := Call.assigned_ascends htexts ⟨q, s.lastId, []⟩
  have hold (p : Query) (other : String) (hp : s.queries.get? other = some p) :
      Within _ p.lent := fun text htext t ht =>
    (h.lent other p hp text htext t ht).more hle hmore name
  cases hassigns : c.assigns with
  | true =>
    -- the new placeholders are all in assignments, which are not lent
    have hleaves : c.run.Leaves Query.lent := by
      refine Call.leaves_run fun p => ?_
      cases c with
      | setRaw _ | set _ _ _ | setFields _ _ | insertFields _ _ => rfl
      | _ => cases hassigns
    rw [hleaves]
    exact hold q name hq
  | false =>
    -- there is no new assignment, so that new placeholders stand elsewhere than all of them
    refine Call.lent_run (Plain.within hc) (hold q name hq) (fun p hp => ?_) ?_
    · obtain ⟨other, hother⟩ := hqueries p hp
      exact hold p other hother
    · rintro t ⟨n, hlt, hle', rfl⟩
      refine ⟨⟨n, hle', rfl⟩, fun other a ha => ?_⟩
      rw [Call.assigned_of_not_assigns hassigns, List.append_nil, Function.update_eq_self] at ha
      exact h.not_mem_of_lt hlt other a ha

/-- A creation puts no assignment on record that was not there. -/
theorem Elsewhere.creation {lastId : Nat} {t : String} (h : Elsewhere lastId r t) (name : String)
    (how : Creation) : Elsewhere lastId (s.recordCreation r [] name how) t := by
  refine ⟨h.1, fun other a ha => ?_⟩
  rcases recordCreation_cases (s := s) (r := r) [] name how other with heq | ⟨third, heq⟩
  · rw [heq] at ha
    cases ha
  · rw [heq] at ha
    exact h.2 third a ha

theorem apart_create (h : s.Apart r) (name : String) {how : Creation}
    (hreads : how.readsState = false) (htable : ∀ table ∈ how.table?, placeholders table = []) :
    (s.step (.create name how)).2.Apart (s.recordCreation r [] name how) := by
  have hcounted (other : String) :
      Ascends 0 ((s.recordCreation r [] name how other).map Assignment.text) s.lastId := by
    rcases recordCreation_cases (s := s) (r := r) [] name how other with heq | ⟨third, heq⟩
    · rw [heq]
      exact .of_plain (Bindings.covers_nil _)
    · rw [heq]
      exact h.counted third
  have hold (other : String) (p : Query) (hp : s.queries.get? other = some p) :
      Within (Elsewhere s.lastId (s.recordCreation r [] name how)) p.lent :=
    fun text htext t ht => (h.lent other p hp text htext t ht).creation name how
  simp only [step]
  cases hq : how.query s s.fresh with
  | error refusal => exact ⟨hcounted, hold⟩
  | ok q =>
    refine ⟨hcounted, fun _ _ => forall_insert (P := fun _ p => Within _ p.lent) ?_
      fun other p _ => hold other p⟩
    rcases Creation.query_cases hq hreads with ⟨other, hother⟩ | hbegins
    · exact hold other q hother
    · exact (hbegins.plain_lent htable).within

/-- **One command keeps assignments apart.** -/
theorem apart_step (h : s.Apart r) {c : Command} (hreads : c.readsState = false)
    (hc : c.PlainSql) : (s.step c).2.Apart (s.assignedStep r c) := by
  cases c with
  | create name how => exact apart_create h name hreads hc
  | call name c =>
    simp only [step, assignedStep]
    cases hq : s.queries.get? name with
    | none => exact h
    | some q =>
      cases he : c.resolve s.queries.get? with
      | none =>
        rw [Call.assigned_of_unknown he, List.append_nil, Function.update_eq_self, ite_self]
        exact h
      | some e =>
        have hplain : SqlBuilder.Plain (e.sqlTexts ++ e.names) := by
          obtain ⟨htexts, hnames, -⟩ := Call.texts_resolve he
          rwa [htexts, hnames]
        obtain ⟨htexts, -⟩ := Bindings.covers_append.1 hplain
        have hle := e.le_lastId_run ⟨q, s.lastId, []⟩
        have hmore := Call.assigned_ascends htexts ⟨q, s.lastId, []⟩
        rw [← Call.assigned_resolve he, Option.isSome_some, if_pos rfl]
        refine ⟨fun other => ?_, fun _ _ => forall_insert (P := fun _ p => Within _ p.lent)
          (h.lent_run hq hplain (Call.mem_queries_resolve he)) fun other p _ hp => ?_⟩
        · by_cases hother : other = name
          · subst hother
            rw [Function.update_self, List.map_append]
            exact (h.counted other).append hmore (Nat.zero_le _) hle
          · rw [Function.update_of_ne hother]
            exact (h.counted other).mono hle
        · intro text htext t ht
          exact (h.lent other p hp text htext t ht).more hle hmore name
  | setDefaultBound _ | compile _ | literalText _ | state _ | equals _ _ | exec _ _ =>
    exact ⟨h.counted, h.lent⟩

theorem apart_run (hs : s.queries = .empty) {cs : List Command}
    (hcs : ∀ c ∈ cs, c.readsState = false ∧ c.PlainSql) :
    (s.run cs).2.Apart (s.assigned (fun _ => []) cs) := by
  have hnone : s.Apart fun _ => [] := by
    refine ⟨fun _ => .of_plain (Bindings.covers_nil _), fun name q hq => ?_⟩
    rw [hs] at hq
    cases hq
  clear hs
  generalize (fun _ => [] : Assigned) = r at hnone ⊢
  induction cs generalizing s r with
  | nil => exact hnone
  | cons c cs ih =>
    obtain ⟨⟨hreads, hc⟩, hcs⟩ := List.forall_mem_cons.1 hcs
    exact ih hcs _ (apart_step hnone hreads hc)

/-- The assignments of a query have no placeholder in common. -/
theorem Apart.not_mem_of_mem (h : s.Apart r) {name : String} {before after : List Assignment}
    {a e : Assignment} (hr : r name = before ++ a :: after) (he : e ∈ before ++ after) {k : String}
    (hk : k ∈ placeholders a.text) : k ∉ placeholders e.text := by
  have hnodup := (h.counted name).nodup
  rw [List.flatMap_map, hr, List.nodup_flatMap, List.pairwise_middle List.disjoint_symm] at hnodup
  exact (List.pairwise_cons.1 hnodup.2).1 e he hk

/-- A placeholder of an overwritten assignment is in no text of the query. -/
theorem Apart.not_mem_of_overwritten (h : s.Apart r) {name : String} {q : Query}
    (hq : s.queries.get? name = some q) (hlays : q.LaysOut (laidOut (r name)))
    {before after : List Assignment} {column right next : String}
    (hr : r name = before ++ .assign column right :: after) (hnext : .assign column next ∈ after)
    {k : String} (hk : k ∈ placeholders right) : ∀ text ∈ q.texts, k ∉ placeholders text := by
  have hmem : Assignment.assign column right ∈ r name := by simp [hr]
  have hk : k ∈ placeholders (Assignment.assign column right).text := by
    rw [Assignment.text, placeholders_glue (by decide)]
    exact List.mem_append_right _ hk
  intro text htext hkt
  rcases Query.mem_texts_iff.1 htext with hshown | hassigned
  · exact (h.lent name q hq text (List.mem_append_left _ hshown) k hkt).2 name _ hmem hk
  · rw [hlays.texts] at hassigned
    obtain ⟨e, he, rfl⟩ := List.mem_map.1 hassigned
    have hother := h.not_mem_of_mem (e := e) hr
    by_cases hin : e ∈ before ++ after
    · exact hother hin hk hkt
    · have hrecord := mem_of_mem_laidOut he
      obtain rfl : e = .assign column right := by
        rw [hr] at hrecord
        simp only [List.mem_append, List.mem_cons] at hrecord hin
        tauto
      rw [hr] at he
      exact not_mem_laidOut hnext (fun hafter => hin (List.mem_append_right _ hafter)) he

/-- **The last assignment wins in its place.** Let a script start without queries and read no state
from a snapshot, and take the record of all assignments that were accepted for a query, also by
calls that were refused later on. The list of the query is this record laid out: an assignment to a
column that has one stands in its place, and everything else is appended. The positions are those of
exactly the columns that were assigned. Different columns have different positions, below the
length of the list, and there stands the column with the right side it was given last. At all other
positions stands the literal SQL, in its order.

If moreover no SQL that the script hands over has a placeholder, then the placeholders of an
assignment that was followed by one to the same column are in no text of the query, and whatever is
stored for them the query compiles to the same, to marks as well as to literals. -/
theorem assignments_last_write_wins (hs : s.queries = .empty) {cs : List Command}
    (hcs : ∀ c ∈ cs, c.readsState = false) {name : String} {q : Query}
    (hq : (s.run cs).2.queries.get? name = some q) {h : List Assignment}
    (hh : s.assigned (fun _ => []) cs name = h) :
    q.assignments = (laidOut h).map Assignment.text ∧
    (∀ column, (q.assignedAt.get? column).isSome ↔ ∃ right, .assign column right ∈ h) ∧
    (∀ column other i, q.assignedAt.get? column = some i → q.assignedAt.get? other = some i →
      column = other) ∧
    (∀ column i, q.assignedAt.get? column = some i → i < q.assignments.length ∧
      ∃ right, latest column h = some right ∧
        q.assignments[i]? = some (column ++ " = " ++ right)) ∧
    q.unplaced = h.filterMap raw? ∧
    ((∀ c ∈ cs, c.PlainSql) → ∀ before after column right next,
      h = before ++ .assign column right :: after → .assign column next ∈ after →
        ∀ k ∈ placeholders right, (∀ text ∈ q.texts, k ∉ placeholders text) ∧
          ∀ v, (q.storing k v).compile = q.compile ∧
            (q.storing k v).literalText = q.literalText) := by
  have hlays : q.LaysOut (laidOut h) := hh ▸ laysOut_run hs hcs (fun _ => []) name q hq
  refine ⟨hlays.texts, fun column => ?_, fun column other i => hlays.place_injective,
    fun column i hi => ⟨hlays.place_lt hi, ?_⟩, hlays.unplaced_eq.trans (raws_laidOut h), ?_⟩
  · rw [Option.isSome_iff_exists]
    constructor
    · rintro ⟨i, hi⟩
      obtain ⟨right, hright⟩ := (hlays.places column i).1 hi
      exact ⟨right, mem_of_mem_laidOut (List.mem_of_getElem? hright)⟩
    · rintro ⟨right, hright⟩
      obtain ⟨last, hlast⟩ := exists_latest hright
      obtain ⟨i, hi⟩ := List.mem_iff_getElem?.1 (assign_mem_laidOut.2 hlast)
      exact ⟨i, (hlays.places column i).2 ⟨last, hi⟩⟩
  · obtain ⟨right, hright⟩ := (hlays.places column i).1 hi
    refine ⟨right, assign_mem_laidOut.1 (List.mem_of_getElem? hright), ?_⟩
    rw [hlays.texts, List.getElem?_map, hright]
    rfl
  · intro hplain before after column right next hrecord hnext k hk
    have hapart := apart_run hs fun c hc => ⟨hcs c hc, hplain c hc⟩
    have hgone := hapart.not_mem_of_overwritten hq (hh.symm ▸ hlays) (hh.trans hrecord) hnext hk
    exact ⟨hgone, fun v => ⟨Query.compile_storing hgone v, Query.literalText_storing hgone v⟩⟩

/-- Two columns are assigned twice, once by fields of which the second one is refused. -/
def reassigned : List Command :=
  [.create "q" (.actingOn .update "t"), .call "q" (.set "a" (.value (.int 1)) none),
    .call "q" (.setRaw "n = n + 1"), .call "q" (.set "b" (.value (.text "x")) (some "UPPER")),
    .call "q" (.setFields ⟨[("a", .value (.int 2)), ("c", .list []), ("d", .value .null)]⟩ none),
    .create "r" (.copy "q"), .call "q" (.set "b" (.raw "DEFAULT") none),
    .call "q" (.whereEq (.raw "id") (.value (.int 7)))]

theorem reassigned_last_write_wins : ∃ q h, (run {} reassigned).2.queries.get? "q" = some q ∧
    assigned {} (fun _ => []) reassigned "q" = h ∧
      h = [.assign "a" "{{binding1}}", .raw "n = n + 1", .assign "b" "UPPER({{binding2}})",
        .assign "a" "{{binding3}}", .assign "b" "DEFAULT"] ∧
      q.assignments = ["a = {{binding3}}", "n = n + 1", "b = DEFAULT"] ∧
      q.unplaced = ["n = n + 1"] ∧ (q.assignedAt.get? "c").isSome = false ∧
      (q.bindings.get? "{{binding1}}").isSome ∧
      ∀ v, (q.storing "{{binding1}}" v).compile =
        .ok ⟨"UPDATE `t` SET a = ?, n = n + 1, b = DEFAULT WHERE id = ?", [.int 2, .int 7]⟩ := by
  have hquery : ((run {} reassigned).2.queries.get? "q").map
      (fun q => ((q.bindings.get? "{{binding1}}").isSome, q.compile)) =
        some (true, .ok ⟨"UPDATE `t` SET a = ?, n = n + 1, b = DEFAULT WHERE id = ?",
          [.int 2, .int 7]⟩) := by
    decide +kernel
  obtain ⟨q, hq, hsome⟩ := Option.map_eq_some_iff.1 hquery
  obtain ⟨hbinding, hcompile⟩ := Prod.mk.inj hsome
  have hrecord : assigned {} (fun _ => []) reassigned "q" =
      [.assign "a" "{{binding1}}", .raw "n = n + 1", .assign "b" "UPPER({{binding2}})",
        .assign "a" "{{binding3}}", .assign "b" "DEFAULT"] := by
    decide +kernel
  obtain ⟨hassignments, hcolumns, -, -, hunplaced, hgone⟩ :=
    assignments_last_write_wins (s := {}) rfl (by decide) hq hrecord
  have hnever : (q.assignedAt.get? "c").isSome = false := by
    rw [Bool.eq_false_iff, ne_eq, hcolumns]
    simp
  refine ⟨q, _, hq, rfl, hrecord, hassignments.trans (by decide), hunplaced, hnever, hbinding,
    fun v => ?_⟩
  have hplain : ∀ c ∈ reassigned, c.PlainSql := by decide +kernel
  have hsame := hgone hplain [] _ "a" "{{binding1}}" "{{binding3}}" rfl (by simp) "{{binding1}}"
    (by decide +kernel)
  exact (hsame.2 v).1.trans hcompile

end Session
end SqlBuilder
