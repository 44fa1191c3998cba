import Mathlib.Tactic.Common
import SqlBuilder.Proofs.Snapshot.Timestamp
import SqlBuilder.Session

/-!
# Snapshots are read back

What was written of a query is read as that query, whatever query the reader starts from
(`query?_ofQuery`): every part is written, so nothing is left as it is in a new query. A snapshot
taken in one session therefore gives the same query in any other, and it compiles to the same
statement there (`Session.create_snapshot`).

Two things have no form in a snapshot. An infinite float is written as null, and the position of
an assignment is read as a number of 64 bits. `Query.Keepable` excludes both; positions beyond 64
bits are excluded only because the model counts without a limit. Of any other query there is no
snapshot that can be read (`keepable_of_query?`), so one that can be read is the query it was taken
of (`eq_of_query?_ofQuery`).

The proof follows the writer: one lemma for each kind of thing that is written, by cases where it
is a choice and by induction where it holds operands, and then the parts of a query one by one.
-/

namespace SqlBuilder

/-! ## What can be kept -/

def Value.isFinite : Value → Bool
  | .float x => x.isFinite
  | _ => true

mutual

/-- Every float in the operand is finite. -/
def Operand.isFinite : Operand → Bool
  | .value v | .data v _ => v.isFinite
  | .list items => finiteItems items
  | .raw _ => true
  | .object fields => finiteFields fields

def Operand.finiteItems : List Operand → Bool
  | [] => true
  | v :: vs => v.isFinite && finiteItems vs

def Operand.finiteFields : List (String × Operand) → Bool
  | [] => true
  | (_, v) :: rest => v.isFinite && finiteFields rest

end

/-- Every float of the query is finite, and its positions are numbers of 64 bits. -/
structure Query.Keepable (q : Query) : Prop where
  rows : ∀ f ∈ q.rows, Operand.finiteFields f.entries = true
  bindings : ∀ e ∈ q.bindings.entries, e.2.isFinite = true
  positions : ∀ e ∈ q.assignedAt.entries, e.2 < 18446744073709551616

/-- Filling a map with the entries of a map gives that map. -/
theorem Dict.ofPairs_entries {α : Type} (d : Dict α) : Dict.ofPairs d.entries = d :=
  Dict.ext_get? fun key => by
    rw [Dict.ofPairs, Dict.get?_foldl_insert _ d.ascending, Dict.get?_empty, Option.or_none]
    rfl

namespace Snapshot

/-! ## Values -/

theorem int?_toInt (n : Int64) : int? (.int n.toInt) = some n := by
  have hlow : -9223372036854775808 ≤ n.toInt := n.minValue_le_toInt
  have hhigh : n.toInt < 9223372036854775808 := n.toInt_lt
  simp only [int?, hlow, hhigh, and_self, if_true, Int64.ofInt_toInt]

theorem float?_ofFloat {x : Float} (h : x.isFinite = true) : float? (.ofFloat x) = some x := by
  simp only [Json.ofFloat, h, if_true, float?]

theorem nat?_int {n : Nat} (h : n < 18446744073709551616) : nat? (.int n) = some n := by
  have hcast : (n : Int) < 18446744073709551616 := by omega
  simp [nat?, hcast]

theorem value?_ofValue {v : Value} (h : v.isFinite = true) : value? (ofValue v) = some v := by
  cases v with
  | null => rfl
  | bool b => rfl
  | int n => exact congrArg (Option.map Value.int) (int?_toInt n)
  | float x => exact congrArg (Option.map Value.float) (float?_ofFloat h)
  | text s => rfl
  | time t => simp [ofValue, tagged, value?, text?]

/-! ## Operands -/

theorem text?_ofString? (s : Option String) : optional? text? (.ofString? s) = some s := by
  cases s <;> rfl

/-- A value is written as a word or as an object, so it is not taken for a list. -/
theorem operand?_value (v : Value) :
    operand? (tagged "Value" (ofValue v)) = (value? (ofValue v)).map .value := by
  cases v with
  | float x =>
    rw [tagged, operand?]
    rintro _ ⟨⟩
  | _ => rfl

theorem operand?_data (v : Value) (modifier : Option String) (h : v.isFinite = true) :
    operand? (ofOperand (.data v modifier)) = some (.data v modifier) := by
  have hmembers : data? [("data", ofValue v), ("modifier", .ofString? modifier)] =
      some (.data v modifier) := by
    simp [data?, Entries.get?, value?_ofValue h, text?_ofString?]
  simpa only [ofOperand, tagged, operand?] using hmembers

mutual

theorem operand?_ofOperand : (v : Operand) → v.isFinite = true →
    operand? (ofOperand v) = some v
  | .value v, h => by
    rw [ofOperand, operand?_value, value?_ofValue h, Option.map_some]
  | .list items, h => by
    simp only [ofOperand, tagged, operand?, if_true, operands?_ofOperands items h, Option.map_some]
  | .data v modifier, h => operand?_data v modifier h
  | .raw sql, _ => rfl
  | .object fields, h => by
    simp [ofOperand, tagged, operand?, entries?_ofEntries fields h]

theorem operands?_ofOperands : (vs : List Operand) → Operand.finiteItems vs = true →
    operands? (ofOperands vs) = some vs
  | [], _ => rfl
  | v :: vs, h => by
    obtain ⟨hv, hvs⟩ := Bool.and_eq_true_iff.1 h
    simp only [ofOperands, operands?, operand?_ofOperand v hv, operands?_ofOperands vs hvs,
      Option.bind_eq_bind, Option.bind_some, Option.pure_def]

theorem entries?_ofEntries : (es : List (String × Operand)) → Operand.finiteFields es = true →
    entries? (ofEntries es) = some es
  | [], _ => rfl
  | (key, v) :: rest, h => by
    obtain ⟨hv, hrest⟩ := Bool.and_eq_true_iff.1 h
    simp only [ofEntries, entries?, operand?_ofOperand v hv, entries?_ofEntries rest hrest,
      Option.bind_eq_bind, Option.bind_some, Option.pure_def]

end

/-- Fields come back in their order, those of the same name included. -/
theorem fields?_ofFields {f : Fields} (h : Operand.finiteFields f.entries = true) :
    fields? (ofFields f) = some f := by
  simp only [ofFields, fields?, entries?_ofEntries f.entries h, Option.map_some]

/-! ## Lists, maps and words -/

section Generic

variable {α : Type} (write : α → Json) {read? : Json → Option α}

theorem mapM_map_eq_some {β γ : Type} {f : β → γ} {g : γ → Option β} {xs : List β}
    (h : ∀ x ∈ xs, g (f x) = some x) : (xs.map f).mapM g = some xs := by
  induction xs with
  | nil => rfl
  | cons x xs ih =>
    rw [List.map_cons, List.mapM_cons, h x (by simp), ih fun y hy => h y (by simp [hy])]
    rfl

theorem list?_map {xs : List α} (h : ∀ x ∈ xs, read? (write x) = some x) :
    list? read? (.arr (xs.map write)) = some xs :=
  mapM_map_eq_some h

theorem dict?_entries {d : Dict α} (h : ∀ e ∈ d.entries, read? (write e.2) = some e.2) :
    dict? read? (.obj (d.entries.map fun e => (e.1, write e.2))) = some d := by
  have hmembers : (d.entries.map fun e => (e.1, write e.2)).mapM
      (fun m => (do return (m.1, ← read? m.2) : Option (String × α))) = some d.entries :=
    mapM_map_eq_some fun e he => by simp [h e he]
  rw [dict?, hmembers]
  exact congrArg some d.ofPairs_entries

end Generic

theorem texts_ofTexts (ss : List String) : list? text? (ofTexts ss) = some ss :=
  list?_map .str fun _ _ => rfl

theorem action?_word (a : Option Action) :
    optional? action? (.ofString? (a.map actionWord)) = some a := by
  cases a with
  | none => rfl
  | some a => cases a <;> rfl

theorem insertMode?_word (m : InsertMode) : insertMode? (.str (insertModeWord m)) = some m := by
  cases m <;> rfl

theorem connective?_word (c : Option Connective) :
    optional? connective? (.ofString? (c.map Connective.keyword)) = some c := by
  cases c with
  | none => rfl
  | some c => cases c <;> rfl

theorem bindings?_ofBindings {b : Bindings} (h : ∀ e ∈ b.entries, e.2.isFinite = true) :
    bindings? (ofBindings b) = some b :=
  dict?_entries ofValue fun e he => value?_ofValue (h e he)

/-! ## Queries -/

/-- Every part of a snapshot is found under its name and read by its own reader. -/
theorem query?_parts (start q : Query) :
    query? start (ofQuery q) = do
      return {
        action := ← optional? action? (.ofString? (q.action.map actionWord))
        insertMode := ← insertMode? (.str (insertModeWord q.insertMode))
        database := ← optional? text? (.ofString? q.database)
        tableName := ← optional? text? (.ofString? q.tableName)
        aliasName := ← optional? text? (.ofString? q.aliasName)
        subquery := ← optional? text? (.ofString? q.subquery)
        asName := ← optional? text? (.ofString? q.asName)
        columns := ← list? text? (ofTexts q.columns)
        conditions := ← list? text? (ofTexts q.conditions)
        connective := ← optional? connective? (.ofString? (q.connective.map Connective.keyword))
        assignments := ← list? text? (ofTexts q.assignments)
        assignedAt := ← dict? nat? (.obj (q.assignedAt.entries.map fun e => (e.1, .int e.2)))
        joins := ← list? text? (ofTexts q.joins)
        orderBy := ← list? text? (ofTexts q.orderBy)
        groupBy := ← list? text? (ofTexts q.groupBy)
        distinct := ← flag? (.bool q.distinct)
        limit := ← optional? text? (.ofString? q.limit)
        rows := ← list? fields? (.arr (q.rows.map ofFields))
        bindings := ← bindings? (ofBindings q.bindings)
        boundParameters := ← flag? (.bool q.boundParameters)
        debug := ← flag? (.bool q.debug) } := rfl

/-- A snapshot of a query is read as the query, whatever query the reader starts from. -/
theorem query?_ofQuery {q : Query} (h : q.Keepable) (start : Query) :
    query? start (ofQuery q) = some q := by
  have hrows : list? fields? (.arr (q.rows.map ofFields)) = some q.rows :=
    list?_map ofFields fun f hf => fields?_ofFields (h.rows f hf)
  have hpositions :
      dict? nat? (.obj (q.assignedAt.entries.map fun e => (e.1, .int e.2))) = some q.assignedAt :=
    dict?_entries (fun n : Nat => .int n) fun e he => nat?_int (h.positions e he)
  rw [query?_parts]
  simp only [action?_word, insertMode?_word, connective?_word, text?_ofString?, texts_ofTexts,
    hrows, hpositions, bindings?_ofBindings h.bindings, flag?, Option.bind_eq_bind,
    Option.bind_some, Option.pure_def]

/-! ## What cannot be kept cannot be read -/

theorem isFinite_of_value? {v w : Value} (h : value? (ofValue v) = some w) : v.isFinite = true := by
  cases v with
  | float x =>
    cases hx : x.isFinite with
    | true => exact hx
    | false =>
      have hnull : ofValue (.float x) = tagged "Float" .null := by simp [ofValue, Json.ofFloat, hx]
      rw [hnull] at h
      cases h
  | _ => rfl

mutual

theorem isFinite_of_operand? : {v w : Operand} → operand? (ofOperand v) = some w →
    v.isFinite = true
  | .value v, w, h => by
    rw [ofOperand, operand?_value] at h
    obtain ⟨u, hu, -⟩ := Option.map_eq_some_iff.1 h
    exact isFinite_of_value? hu
  | .data v modifier, w, h => by
    simp only [ofOperand, tagged, operand?, data?] at h
    obtain ⟨j, hj, h⟩ := Option.bind_eq_some_iff.1 h
    obtain ⟨u, hu, -⟩ := Option.bind_eq_some_iff.1 h
    cases hj
    exact isFinite_of_value? hu
  | .list items, w, h => by
    simp only [ofOperand, tagged, operand?, if_true] at h
    obtain ⟨vs, hvs, -⟩ := Option.map_eq_some_iff.1 h
    exact finiteItems_of_operands? hvs
  | .raw _, _, _ => rfl
  | .object fields, w, h => by
    simp only [ofOperand, tagged, operand?] at h
    obtain ⟨es, hes, -⟩ := Option.map_eq_some_iff.1 h
    exact finiteFields_of_entries? hes

theorem finiteItems_of_operands? : {vs ws : List Operand} → operands? (ofOperands vs) = some ws →
    Operand.finiteItems vs = true
  | [], _, _ => rfl
  | v :: vs, _, h => by
    obtain ⟨w, hw, h⟩ := Option.bind_eq_some_iff.1 h
    obtain ⟨ws, hws, -⟩ := Option.bind_eq_some_iff.1 h
    exact Bool.and_eq_true_iff.2 ⟨isFinite_of_operand? hw, finiteItems_of_operands? hws⟩

theorem finiteFields_of_entries? : {es fs : List (String × Operand)} →
    entries? (ofEntries es) = some fs → Operand.finiteFields es = true
  | [], _, _ => rfl
  | (key, v) :: es, _, h => by
    obtain ⟨w, hw, h⟩ := Option.bind_eq_some_iff.1 h
    obtain ⟨fs, hfs, -⟩ := Option.bind_eq_some_iff.1 h
    exact Bool.and_eq_true_iff.2 ⟨isFinite_of_operand? hw, finiteFields_of_entries? hfs⟩

end

theorem exists_of_mapM {β γ : Type} {g : β → Option γ} {xs : List β} {ys : List γ}
    (h : xs.mapM g = some ys) : ∀ x ∈ xs, ∃ y, g x = some y := by
  induction xs generalizing ys with
  | nil => exact fun x hx => nomatch hx
  | cons x xs ih =>
    rw [List.mapM_cons] at h
    obtain ⟨y, hy, h⟩ := Option.bind_eq_some_iff.1 h
    obtain ⟨ys, hys, -⟩ := Option.bind_eq_some_iff.1 h
    exact List.forall_mem_cons.2 ⟨⟨y, hy⟩, ih hys⟩

theorem exists_of_dict? {α β : Type} {f : β → Json} {read? : Json → Option α}
    {es : List (String × β)} {d : Dict α}
    (h : dict? read? (.obj (es.map fun e => (e.1, f e.2))) = some d) :
    ∀ e ∈ es, ∃ v, read? (f e.2) = some v := by
  intro e he
  obtain ⟨members, hmembers, -⟩ := Option.bind_eq_some_iff.1 h
  obtain ⟨m, hm⟩ := exists_of_mapM hmembers _ (List.mem_map_of_mem he)
  obtain ⟨v, hv, -⟩ := Option.bind_eq_some_iff.1 hm
  exact ⟨v, hv⟩

theorem keepable_of_query? {start q r : Query} (h : query? start (ofQuery q) = some r) :
    q.Keepable := by
  rw [query?_parts] at h
  simp only [action?_word, insertMode?_word, connective?_word, text?_ofString?, texts_ofTexts,
    flag?, Option.bind_eq_bind, Option.bind_some] at h
  obtain ⟨places, hplaces, h⟩ := Option.bind_eq_some_iff.1 h
  obtain ⟨rows, hrows, h⟩ := Option.bind_eq_some_iff.1 h
  obtain ⟨bindings, hbindings, -⟩ := Option.bind_eq_some_iff.1 h
  refine ⟨fun f hf => ?_, fun e he => ?_, fun e he => ?_⟩
  · obtain ⟨g, hg⟩ := exists_of_mapM hrows _ (List.mem_map_of_mem hf)
    obtain ⟨es, hes, -⟩ := Option.map_eq_some_iff.1 hg
    exact finiteFields_of_entries? hes
  · obtain ⟨v, hv⟩ := exists_of_dict? (f := ofValue) hbindings e he
    exact isFinite_of_value? hv
  · obtain ⟨n, hn⟩ := exists_of_dict? (f := fun n : Nat => .int n) hplaces e he
    simp only [nat?, Option.ite_none_right_eq_some] at hn
    omega

/-- A snapshot that can be read gives the query it was taken of. -/
theorem eq_of_query?_ofQuery {start q r : Query} (h : query? start (ofQuery q) = some r) :
    r = q :=
  Option.some.inj (h.symm.trans (query?_ofQuery (keepable_of_query? h) start))

end Snapshot

/-! ## Sessions -/

namespace Session

/-- A snapshot of a query makes the same query in any session, whatever the choice for new queries
is there, and both queries compile to the same result. -/
theorem create_snapshot (s t : Session) (name other : String) {q : Query}
    (hq : s.queries.get? other = some q) (h : q.Keepable) :
    (∀ start, Snapshot.query? start (Snapshot.ofQuery q) = some q) ∧
      t.step (.create name (.snapshot (Snapshot.ofQuery q))) =
        (⟨.ok .done, Snapshot.changes {} q, []⟩,
          { t with queries := t.queries.insert name q }) ∧
      ((t.step (.create name (.snapshot (Snapshot.ofQuery q)))).2.step (.compile name)).1 =
        (s.step (.compile other)).1 := by
  have hcreate : t.step (.create name (.snapshot (Snapshot.ofQuery q))) =
      (⟨.ok .done, Snapshot.changes {} q, []⟩,
        { t with queries := t.queries.insert name q }) := by
    simp only [step, Creation.query, Snapshot.query?_ofQuery h, Option.elim_some]
  refine ⟨Snapshot.query?_ofQuery h, hcreate, ?_⟩
  rw [hcreate]
  simp only [step, inspect, Dict.get?_insert, if_true, hq]

/-- Two cells of one name, a null, a float and a timestamp come back as they are. -/
def keptQuery : Query where
  action := some .insert
  tableName := some "t"
  columns := ["a"]
  rows := [⟨[("a", .value (.int 1)), ("a", .data .null (some "LOWER"))]⟩]
  assignedAt := Dict.empty.insert "b" 0
  bindings := ((Dict.empty.insert "x" .null).insert "y" (.float 1.5)).insert "z"
    (.time ⟨-8334601228800, 999, by decide, by decide, by decide⟩)

theorem create_snapshot_keptQuery :
    (({ queries := Dict.empty.insert "q" keptQuery } : Session).queries.get? "q" =
        some keptQuery ∧ keptQuery.Keepable) ∧
      ∀ start, Snapshot.query? start (Snapshot.ofQuery keptQuery) = some keptQuery := by
  have hkeep : keptQuery.Keepable :=
    ⟨by decide, by decide +kernel, by decide⟩
  exact ⟨⟨rfl, hkeep⟩, (create_snapshot { queries := Dict.empty.insert "q" keptQuery }
    { defaultBound := false } "r" "q" rfl hkeep).1⟩

end Session
end SqlBuilder
