import SqlBuilder.Proofs.Renaming.Clauses
import SqlBuilder.Proofs.Snapshot.RoundTrip
import SqlBuilder.Proofs.Substitution.Edit
import SqlBuilder.Proofs.Supply.Session

/-!
# Scripts without placeholders

In a script the caller may hand over no placeholder at all, neither in a text nor as a key of the
generated form, and not in a snapshot either (`Command.Plain`). Then whatever placeholder is in
a query was generated for it or for a query that went into it, so the query holds a value for it,
and its number has been counted (`Query.Sound`). The same goes for the columns of its rows, which
take their names from the column list.

All queries stay sound, through calls that fail and through snapshots of other queries
(`Session.sound_run`).
-/

namespace SqlBuilder

open Binder (tokenOf)

theorem Plain.covers {texts : List String} (h : Plain texts) (b : Bindings) : b.Covers texts :=
  fun s hs => Bindings.supplies_of_placeholders_eq_nil (plain_iff.1 h s hs)

/-! ## What is asked of the caller -/

namespace Call

/-- The key under which a call stores a value of the caller's. -/
def storedKey? {Q : Type} : Call Q → Option String
  | insertBinding name _ => some (Bindings.key name)
  | _ => none

/-- The call hands over no placeholder. -/
def Plain {Q : Type} (c : Call Q) : Prop :=
  SqlBuilder.Plain (c.sqlTexts ++ c.names) ∧ ∀ key ∈ c.storedKey?, ∀ n, key ≠ tokenOf n

end Call

/-- There is no placeholder in the query, and none of the generated form has a value. -/
def Query.Plain (q : Query) : Prop :=
  SqlBuilder.Plain (q.texts ++ q.asName.toList ++ q.rows.flatMap Fields.keys) ∧
    ∀ n, q.bindings.get? (tokenOf n) = none

/-- The creation hands over no placeholder, also where it reads a query of the caller's. -/
def Creation.Plain : Creation → Prop
  | .actingOn _ table => placeholders table = []
  | .snapshot j => ∀ bound q, Snapshot.query? { boundParameters := bound } j = some q → q.Plain
  | .blank | .configured _ | .copy _ | .reread _ | .acting _ | .inserting _ => True

/-- The command hands over no placeholder. -/
def Command.Plain : Command → Prop
  | .create _ how => how.Plain
  | .call _ c => c.Plain
  | .setDefaultBound _ | .compile _ | .literalText _ | .state _ | .equals _ _ | .exec _ _ => True

/-! ## Texts of resolved calls -/

namespace Call

section Resolve

variable {Q R : Type} {find? : Q → Option R}

mutual

theorem sqlTexts_resolveCondition : {c : Condition Q} → {d : Condition R} →
    resolveCondition find? c = some d → d.sqlTexts = c.sqlTexts
  | .raw _, _, h | .fields _, _, h | .value _, _, h => by
    cases h
    rfl
  | .query q, _, h => by
    obtain ⟨r, -, rfl⟩ := Option.map_eq_some_iff.1 h
    rfl
  | .list cs, _, h => by
    obtain ⟨ds, hds, rfl⟩ := Option.map_eq_some_iff.1 h
    exact sqlTexts_resolveItems hds

theorem sqlTexts_resolveItems : {cs : List (Condition Q)} → {ds : List (Condition R)} →
    resolveItems find? cs = some ds → Condition.sqlTextsOfItems ds = Condition.sqlTextsOfItems cs
  | [], _, h => by
    cases h
    rfl
  | c :: cs, _, h => by
    obtain ⟨d, hd, h⟩ := Option.bind_eq_some_iff.1 h
    obtain ⟨ds, hds, h⟩ := Option.bind_eq_some_iff.1 h
    cases h
    exact congrArg₂ (· ++ ·) (sqlTexts_resolveCondition hd) (sqlTexts_resolveItems hds)

end

theorem sqlTexts_resolveColumn {c : Column Q} {d : Column R} (h : resolveColumn find? c = some d) :
    d.sqlTexts = c.sqlTexts := by
  cases c with
  | query q =>
    obtain ⟨r, -, rfl⟩ := Option.map_eq_some_iff.1 h
    rfl
  | value v =>
    cases h
    cases v <;> rfl
  | name _ | data _ _ =>
    cases h
    rfl

theorem sqlTexts_resolveColumns {cs : List (Column Q)} {ds : List (Column R)}
    (h : cs.mapM (resolveColumn find?) = some ds) :
    ds.flatMap Column.sqlTexts = cs.flatMap Column.sqlTexts := by
  induction cs generalizing ds with
  | nil =>
    cases h
    rfl
  | cons c cs ih =>
    rw [List.mapM_cons] at h
    obtain ⟨d, hd, h⟩ := Option.bind_eq_some_iff.1 h
    obtain ⟨ds, hds, h⟩ := Option.bind_eq_some_iff.1 h
    cases h
    rw [List.flatMap_cons, List.flatMap_cons, sqlTexts_resolveColumn hd, ih hds]

theorem texts_resolveJoin {j : Join Q} {k : Join R} (h : resolveJoin find? j = some k) :
    k.sqlTexts = j.sqlTexts ∧ k.names = j.names := by
  cases j with
  | raw sql =>
    cases h
    exact ⟨rfl, rfl⟩
  | query q =>
    obtain ⟨r, -, rfl⟩ := Option.map_eq_some_iff.1 h
    exact ⟨rfl, rfl⟩
  | options o =>
    obtain ⟨p, hp, rfl⟩ := Option.map_eq_some_iff.1 h
    unfold resolveOptions at hp
    simp only [Join.sqlTexts, Join.optionTexts, Join.names]
    cases ho : o.target with
    | none =>
      rw [ho] at hp
      cases hp
      exact ⟨rfl, rfl⟩
    | some target =>
      rw [ho] at hp
      obtain ⟨t, ht, rfl⟩ := Option.map_eq_some_iff.1 hp
      cases target with
      | table name =>
        cases ht
        exact ⟨rfl, rfl⟩
      | query q =>
        obtain ⟨r, -, rfl⟩ := Option.map_eq_some_iff.1 ht
        exact ⟨rfl, rfl⟩

/-- A call is carried out with the texts it was written with. -/
theorem texts_resolve {c : Call Q} {d : Call R} (h : c.resolve find? = some d) :
    d.sqlTexts = c.sqlTexts ∧ d.names = c.names ∧ d.storedKey? = c.storedKey? := by
  cases c with
  | fromSubquery q aliasName =>
    obtain ⟨r, -, rfl⟩ := Option.map_eq_some_iff.1 h
    exact ⟨rfl, rfl, rfl⟩
  | columns cs | selectColumns cs =>
    obtain ⟨ds, hds, rfl⟩ := Option.map_eq_some_iff.1 h
    exact ⟨sqlTexts_resolveColumns hds, rfl, rfl⟩
  | addColumn c unique =>
    obtain ⟨d, hd, rfl⟩ := Option.map_eq_some_iff.1 h
    exact ⟨sqlTexts_resolveColumn hd, rfl, rfl⟩
  | addCondition c v operator modifier =>
    obtain ⟨d, hd, rfl⟩ := Option.map_eq_some_iff.1 h
    refine ⟨?_, rfl, rfl⟩
    simp only [sqlTexts, sqlTexts_resolveCondition hd]
  | join kind j =>
    obtain ⟨k, hk, rfl⟩ := Option.map_eq_some_iff.1 h
    exact ⟨(texts_resolveJoin hk).1, (texts_resolveJoin hk).2, rfl⟩
  | _ =>
    cases h
    exact ⟨rfl, rfl, rfl⟩

/-- The queries that are put in place of their names hand over nothing in the call. -/
theorem plain_resolve {c : Call Q} {d : Call R} (h : c.resolve find? = some d) (hc : c.Plain) :
    d.Plain := by
  obtain ⟨htexts, hnames, hkey⟩ := texts_resolve h
  unfold Plain
  rwa [htexts, hnames, hkey]

end Resolve

/-! ## Rows -/

/-- The call adds a row. -/
def addsRow {Q : Type} : Call Q → Bool
  | addRow _ | addRowValues _ => true
  | _ => false

/-- Every other call leaves the rows as they are. -/
theorem leaves_rows {c : Call Query} (h : c.addsRow = false) : c.run.Leaves Query.rows := by
  refine leaves_run fun q => ?_
  cases c with
  | addRow _ | addRowValues _ => cases h
  | _ => rfl

theorem rows_addRow (f : Fields) (d : Draft) :
    (Edit.addRow f d).2.query.rows = d.query.rows ∨
      (Edit.addRow f d).2.query.rows = d.query.rows ++ [f] := by
  unfold Edit.addRow
  cases Edit.badCell? f.entries with
  | some column => exact .inl rfl
  | none =>
    have hleaves : Edit.leaveAllColumns.Leaves Query.rows :=
      Edit.leaves_leaveAllColumns fun _ _ => rfl
    exact .inr (congrArg (· ++ [f]) (hleaves d))

/-- The columns of a new row are named by the call or are columns of the query. -/
theorem mem_rows_run {c : Call Query} {d : Draft} {f : Fields}
    (h : f ∈ (c.run d).2.query.rows) :
    f ∈ d.query.rows ∨ ∀ key ∈ f.keys, key ∈ c.sqlTexts ∨ key ∈ d.query.columns := by
  have hadded {g : Fields} (hmem : f ∈ (Edit.addRow g d).2.query.rows) :
      f ∈ d.query.rows ∨ f = g := by
    rcases rows_addRow g d with hrows | hrows
    · exact .inl (hrows ▸ hmem)
    · simpa [hrows] using hmem
  cases hc : c.addsRow with
  | false => exact .inl (leaves_rows hc d ▸ h)
  | true =>
    rw [run_snd] at h
    cases c with
    | addRow g =>
      refine (hadded h).imp_right ?_
      rintro rfl key hkey
      exact .inl hkey
    | addRowValues vs =>
      change f ∈ (Edit.addRowValues vs d).2.query.rows at h
      rw [Edit.addRowValues_apply] at h
      cases hcolumns : (!d.query.hasAllColumns && !d.query.columns.isEmpty) with
      | false =>
        rw [hcolumns] at h
        exact .inl h
      | true =>
        rw [hcolumns] at h
        refine (hadded h).imp_right ?_
        rintro rfl key hkey
        obtain ⟨p, hp, rfl⟩ := List.mem_map.1 (Edit.mem_keys_ofPairs hkey)
        exact .inr (List.of_mem_zip hp).1
    | _ => cases hc

end Call

/-! ## Sound queries -/

/-- Every placeholder in the query has a value, and every one of the generated form that has a
value was counted. -/
structure Query.Sound (lastId : Nat) (q : Query) : Prop where
  closed : q.Closed
  keys : q.bindings.Covers (q.rows.flatMap Fields.keys)
  behind : ∀ n, lastId < n → q.bindings.get? (tokenOf n) = none

namespace Query

variable {lastId : Nat} {q : Query}

theorem Sound.mono (h : q.Sound lastId) {n : Nat} (hn : lastId ≤ n) : q.Sound n :=
  ⟨h.closed, h.keys, fun _ hi => h.behind _ (Nat.lt_of_le_of_lt hn hi)⟩

theorem Plain.sound (h : q.Plain) (lastId : Nat) : q.Sound lastId := by
  obtain ⟨htexts, hbindings⟩ := h
  obtain ⟨hrest, hkeys⟩ := Bindings.covers_append.1 htexts
  obtain ⟨htexts, hname⟩ := Bindings.covers_append.1 hrest
  exact ⟨⟨Plain.covers htexts _, fun name hn => plain_iff.1 hname name (Option.mem_toList.2 hn)⟩,
    Plain.covers hkeys _, fun n _ => hbindings n⟩

/-- A query stays sound under a call that hands over no placeholder, if the queries that the call
refers to are sound. -/
theorem Sound.run (h : q.Sound lastId) {c : Call Query} (hc : c.Plain)
    (hqueries : ∀ p ∈ c.queries, p.Sound lastId) :
    (c.run ⟨q, lastId, []⟩).2.query.Sound (c.run ⟨q, lastId, []⟩).2.lastId := by
  obtain ⟨hplain, hstored⟩ := hc
  obtain ⟨htexts, hnames⟩ := Bindings.covers_append.1 hplain
  obtain ⟨names, hgrows⟩ := c.run_grows ⟨q, lastId, []⟩
  have hcount : (c.run ⟨q, lastId, []⟩).2.lastId = lastId + names.length := hgrows.lastId_eq
  refine ⟨?_, ?_, fun n hn => Option.eq_none_iff_forall_ne_some.2 fun v hv => ?_⟩
  · exact Call.closed_run h.closed (Plain.covers htexts _) (plain_iff.1 hnames)
      fun p hp => (hqueries p hp).closed
  · refine Bindings.covers_flatMap.2 fun f hf key hkey => ?_
    rcases Call.mem_rows_run hf with hf | hkeys
    · exact hgrows.covers h.keys key (List.mem_flatMap.2 ⟨f, hf, hkey⟩)
    · rcases hkeys key hkey with hkey | hkey
      · exact Plain.covers htexts _ key hkey
      · exact hgrows.covers h.closed.texts key (Clause.mem_texts (κ := .columns) hkey)
  · rcases hgrows.get?_cases hv with hv | hv | ⟨m, hm, hmem⟩
    · cases (h.behind n (by omega)).symm.trans hv
    · cases hv with
      | query p hp hv => cases ((hqueries p hp).behind n (by omega)).symm.trans hv
      | stored name w hcall hkey _ => exact hstored _ (by rw [hcall]; rfl) n hkey.symm
    · obtain rfl := Binder.tokenOf_injective hm
      have hle : n ≤ lastId + names.length := (hgrows.numbered.le_of_mem hmem).2
      omega

end Query

theorem Creation.sound {how : Creation} (hhow : how.Plain) {s : Session}
    (hs : ∀ name q, s.queries.get? name = some q → q.Sound s.lastId) {q : Query}
    (hq : how.query s s.fresh = .ok q) : q.Sound s.lastId := by
  have hnew (hreads : how.readsState = false)
      (htable : ∀ table ∈ how.table?, placeholders table = []) : q.Sound s.lastId := by
    rcases Creation.query_cases hq hreads with ⟨other, hother⟩ | hbegins
    · exact hs other q hother
    · refine ⟨hbegins.closed htable, ?_, fun n _ => ?_⟩
      · rw [hbegins]
        exact Bindings.covers_nil _
      · rw [hbegins]
        rfl
  cases how with
  | snapshot j =>
    rw [query] at hq
    cases hread : Snapshot.query? s.fresh j with
    | none =>
      rw [hread] at hq
      cases hq
    | some r =>
      rw [hread] at hq
      obtain rfl : r = q := Except.ok.inj hq
      exact (hhow s.defaultBound r hread).sound s.lastId
  | reread name =>
    rw [query] at hq
    cases hname : s.queries.get? name with
    | none =>
      rw [hname] at hq
      cases hq
    | some p =>
      rw [hname] at hq
      cases hread : Snapshot.query? s.fresh (Snapshot.ofQuery p) with
      | none =>
        simp only [hread] at hq
        cases hq
      | some r =>
        simp only [hread] at hq
        obtain rfl : r = q := Except.ok.inj hq
        rw [Snapshot.eq_of_query?_ofQuery hread]
        exact hs name p hname
  | actingOn a table =>
    refine hnew rfl ?_
    rintro _ ⟨⟩
    exact hhow
  | _ =>
    refine hnew rfl ?_
    rintro _ ⟨⟩

namespace Session

/-- Every query is sound. -/
def Sound (s : Session) : Prop := ∀ name q, s.queries.get? name = some q → q.Sound s.lastId

/-- **One command keeps the queries sound.** -/
theorem sound_step {s : Session} (h : s.Sound) {c : Command} (hc : c.Plain) :
    (s.step c).2.Sound := by
  generalize ht : (s.step c).2 = t
  have hmoves := ht ▸ s.moves_step c
  cases hmoves with
  | rests _ hqueries hlastId => exact fun name q hq => hlastId ▸ h name q (hqueries ▸ hq)
  | creates name hq =>
    exact fun _ _ => forall_insert (P := fun _ q => q.Sound s.lastId) (Creation.sound hc h hq)
      fun other r _ => h other r
  | @calls name c q d hq hd =>
    have hqueries : ∀ p ∈ d.queries, p.Sound s.lastId := fun p hp => by
      obtain ⟨other, hother⟩ := Call.mem_queries_resolve hd p hp
      exact h other p hother
    have hle := d.le_lastId_run ⟨q, s.lastId, []⟩
    exact fun _ _ => forall_insert
      (P := fun _ p => p.Sound (d.run ⟨q, s.lastId, []⟩).2.lastId)
      ((h name q hq).run (Call.plain_resolve hd hc) hqueries)
      fun other r _ hr => (h other r hr).mono hle

theorem sound_run {s : Session} (hs : s.queries = .empty) {cs : List Command}
    (hcs : ∀ c ∈ cs, c.Plain) : (s.run cs).2.Sound := by
  have hempty : s.Sound := fun name q hq => by
    rw [hs] at hq
    cases hq
  clear hs
  induction cs generalizing s with
  | nil => exact hempty
  | cons c cs ih =>
    obtain ⟨hc, hcs⟩ := List.forall_mem_cons.1 hcs
    exact ih hcs (sound_step hempty hc)

end Session
end SqlBuilder
