import SqlBuilder.Call

/-!
# What a call brings along

A call hands over SQL text in many places: names, fragments, operators, functions to be applied.
`sqlTexts` collects all of it that may get into a fragment of the query, from operands up to whole
calls. Values are no SQL text, except where a plain text stands for a column. Nor are the cells of
a row, which no placeholder is looked for in, and the keys under which values are stored.

Names of sub-queries are listed apart (`names`), since they go into the text of another query than
the one they are given to; and so are the queries that a call refers to (`queries`).
-/

namespace SqlBuilder

/-! ## Operands -/

namespace Operand

mutual

/-- The SQL text in an operand. -/
def sqlTexts : Operand → List String
  | .value _ => []
  | .list items => sqlTextsOfItems items
  | .data _ modifier => modifier.toList
  | .raw sql => [sql]
  | .object fields => sqlTextsOfFields fields

def sqlTextsOfItems : List Operand → List String
  | [] => []
  | v :: vs => sqlTexts v ++ sqlTextsOfItems vs

def sqlTextsOfFields : List (String × Operand) → List String
  | [] => []
  | (key, v) :: rest => key :: sqlTexts v ++ sqlTextsOfFields rest

end

theorem sqlTextsOfItems_eq (items : List Operand) :
    sqlTextsOfItems items = items.flatMap sqlTexts := by
  induction items with
  | nil => rfl
  | cons v vs ih => rw [sqlTextsOfItems, ih, List.flatMap_cons]

/-- The SQL text on the right-hand side of a join, where a plain text is the name of a column. -/
def sideTexts : Operand → List String
  | .value (.text column) => [column]
  | v => v.sqlTexts

end Operand

/-- The SQL text in fields, their names included. -/
def Fields.sqlTexts (f : Fields) : List String := Operand.sqlTextsOfFields f.entries

/-! ## Conditions, columns and joins -/

namespace Condition

variable {Q : Type}

mutual

def sqlTexts : Condition Q → List String
  | raw sql => [sql]
  | list items => sqlTextsOfItems items
  | fields f => f.sqlTexts
  | query _ | value _ => []

def sqlTextsOfItems : List (Condition Q) → List String
  | [] => []
  | c :: cs => sqlTexts c ++ sqlTextsOfItems cs

end

mutual

def queries : Condition Q → List Q
  | list items => queriesOfItems items
  | query q => [q]
  | raw _ | fields _ | value _ => []

def queriesOfItems : List (Condition Q) → List Q
  | [] => []
  | c :: cs => queries c ++ queriesOfItems cs

end

end Condition

namespace Column

variable {Q : Type}

def sqlTexts : Column Q → List String
  | name s | value (.text s) => [s]
  | data _ modifier => modifier.toList
  | value _ | query _ => []

def queries : Column Q → List Q
  | query q => [q]
  | _ => []

end Column

namespace JoinOn

mutual

def sqlTexts : JoinOn → List String
  | raw sql => [sql]
  | list items => sqlTextsOfItems items
  | fields f => f.entries.flatMap fun e => e.1 :: e.2.sideTexts

def sqlTextsOfItems : List JoinOn → List String
  | [] => []
  | on :: ons => sqlTexts on ++ sqlTextsOfItems ons

end

end JoinOn

namespace Join

variable {Q : Type}

def targetTexts : JoinTarget Q → List String
  | .table name => [name]
  | .query _ => []

def targetQueries : JoinTarget Q → List Q
  | .table _ => []
  | .query q => [q]

def optionTexts (o : JoinOptions Q) : List String :=
  o.target.toList.flatMap targetTexts ++ o.aliasName.toList ++ o.on.toList.flatMap JoinOn.sqlTexts ++
    o.onConnective.toList ++ o.usingColumns ++ o.kind.toList

def sqlTexts : Join Q → List String
  | raw sql => [sql]
  | options o => optionTexts o
  | query _ => []

/-- The alias of a joined query is its name as a sub-query. -/
def names : Join Q → List String
  | options o => o.target.toList.flatMap fun t => (targetQueries t).flatMap fun _ =>
      o.aliasName.toList
  | raw _ | query _ => []

def queries : Join Q → List Q
  | options o => o.target.toList.flatMap targetQueries
  | query q => [q]
  | raw _ => []

end Join

/-! ## Calls -/

namespace Call

variable {Q : Type}

/-- The SQL text of a call that may get into a fragment. -/
def sqlTexts : Call Q → List String
  | insertFields _ f => f.sqlTexts
  | table name aliasName | actOn _ name aliasName => name :: aliasName.toList
  | tableOf db name aliasName => db :: name :: aliasName.toList
  | deleteFromTables names aliasName => names ++ aliasName.toList
  | database name => [name]
  | columns cs | selectColumns cs => cs.flatMap Column.sqlTexts
  | addColumn c _ => c.sqlTexts
  | setRaw statement => [statement]
  | set column v modifier => column :: v.sqlTexts ++ modifier.toList
  | setFields f modifier => f.sqlTexts ++ modifier.toList
  | addRow f => f.keys
  | addCondition c v operator modifier =>
    c.sqlTexts ++ v.toList.flatMap Operand.sqlTexts ++ operator.toList ++ modifier.toList
  | between field _ _ modifier => field :: modifier.toList
  | inRange field _ _ => [field]
  | join _ j => j.sqlTexts
  | orderBy names | groupBy names => names
  | createBinding _ modifier => modifier.toList
  | act _ | insertInto _ | asName _ | fromSubquery _ _ | addRowValues _ | clearConditions
  | connective _ | comparisonMethod _ | distinct _ | limit _ _ | boundParameters _ | debug _
  | insertBinding _ _ => []

/-- The names that a call gives to sub-queries. -/
def names : Call Q → List String
  | asName name => [name]
  | fromSubquery _ aliasName => aliasName.toList
  | join _ j => j.names
  | _ => []

/-- The queries that a call refers to. -/
def queries : Call Q → List Q
  | fromSubquery q _ => [q]
  | columns cs | selectColumns cs => cs.flatMap Column.queries
  | addColumn c _ => c.queries
  | addCondition c _ _ _ => c.queries
  | join _ j => j.queries
  | _ => []

/-! ### Names of queries -/

section Resolve

variable {R : Type} {find? : Q → Option R}

mutual

theorem mem_queries_resolveCondition : {c : Condition Q} → {d : Condition R} →
    resolveCondition find? c = some d → ∀ r ∈ d.queries, ∃ q, find? q = some r
  | .raw _, _, h, r, hr | .fields _, _, h, r, hr | .value _, _, h, r, hr => by
    cases h
    cases hr
  | .query q, _, h, r, hr => by
    obtain ⟨r', hr', rfl⟩ := Option.map_eq_some_iff.1 h
    exact ⟨q, by rw [hr', List.mem_singleton.1 hr]⟩
  | .list cs, _, h, r, hr => by
    obtain ⟨ds, hds, rfl⟩ := Option.map_eq_some_iff.1 h
    exact mem_queries_resolveItems hds r hr

theorem mem_queries_resolveItems : {cs : List (Condition Q)} → {ds : List (Condition R)} →
    resolveItems find? cs = some ds →
      ∀ r ∈ Condition.queriesOfItems ds, ∃ q, find? q = some r
  | [], _, h, r, hr => by
    cases h
    cases hr
  | c :: cs, _, h, r, hr => by
    obtain ⟨d, hd, h⟩ := Option.bind_eq_some_iff.1 h
    obtain ⟨ds, hds, h⟩ := Option.bind_eq_some_iff.1 h
    cases h
    rcases List.mem_append.1 hr with hr | hr
    · exact mem_queries_resolveCondition hd r hr
    · exact mem_queries_resolveItems hds r hr

end

theorem mem_queries_resolveColumn {c : Column Q} {d : Column R}
    (h : resolveColumn find? c = some d) : ∀ r ∈ d.queries, ∃ q, find? q = some r := by
  intro r hr
  cases c with
  | query q =>
    obtain ⟨r', hr', rfl⟩ := Option.map_eq_some_iff.1 h
    exact ⟨q, by rw [hr', List.mem_singleton.1 hr]⟩
  | _ =>
    cases h
    cases hr

theorem mem_queries_resolveColumns {cs : List (Column Q)} {ds : List (Column R)}
    (h : cs.mapM (resolveColumn find?) = some ds) :
    ∀ r ∈ ds.flatMap Column.queries, ∃ q, find? q = some r := by
  induction cs generalizing ds with
  | nil =>
    cases h
    intro r hr
    cases hr
  | cons c cs ih =>
    rw [List.mapM_cons] at h
    obtain ⟨d, hd, h⟩ := Option.bind_eq_some_iff.1 h
    obtain ⟨ds, hds, h⟩ := Option.bind_eq_some_iff.1 h
    cases h
    intro r hr
    rcases List.mem_append.1 (List.flatMap_cons ▸ hr) with hr | hr
    · exact mem_queries_resolveColumn hd r hr
    · exact ih hds r hr

theorem mem_queries_resolveJoin {j : Join Q} {k : Join R} (h : resolveJoin find? j = some k) :
    ∀ r ∈ k.queries, ∃ q, find? q = some r := by
  intro r hr
  cases j with
  | raw sql =>
    cases h
    cases hr
  | query q =>
    obtain ⟨r', hr', rfl⟩ := Option.map_eq_some_iff.1 h
    exact ⟨q, by rw [hr', List.mem_singleton.1 hr]⟩
  | options o =>
    obtain ⟨p, hp, rfl⟩ := Option.map_eq_some_iff.1 h
    unfold resolveOptions at hp
    cases ho : o.target with
    | none =>
      rw [ho] at hp
      cases hp
      cases hr
    | some target =>
      rw [ho] at hp
      obtain ⟨t, ht, rfl⟩ := Option.map_eq_some_iff.1 hp
      cases target with
      | table name =>
        cases ht
        cases hr
      | query q =>
        obtain ⟨r', hr', rfl⟩ := Option.map_eq_some_iff.1 ht
        exact ⟨q, by rw [hr', List.mem_singleton.1 hr]⟩

/-- A call refers to no queries but those that were found. -/
theorem mem_queries_resolve {c : Call Q} {d : Call R} (h : c.resolve find? = some d) :
    ∀ r ∈ d.queries, ∃ q, find? q = some r := by
  intro r hr
  cases c with
  | fromSubquery q aliasName =>
    obtain ⟨r', hr', rfl⟩ := Option.map_eq_some_iff.1 h
    exact ⟨q, by rw [hr', List.mem_singleton.1 hr]⟩
  | columns cs | selectColumns cs =>
    obtain ⟨ds, hds, rfl⟩ := Option.map_eq_some_iff.1 h
    exact mem_queries_resolveColumns hds r hr
  | addColumn c unique =>
    obtain ⟨d, hd, rfl⟩ := Option.map_eq_some_iff.1 h
    exact mem_queries_resolveColumn hd r hr
  | addCondition c v operator modifier =>
    obtain ⟨d, hd, rfl⟩ := Option.map_eq_some_iff.1 h
    exact mem_queries_resolveCondition hd r hr
  | join kind j =>
    obtain ⟨k, hk, rfl⟩ := Option.map_eq_some_iff.1 h
    exact mem_queries_resolveJoin hk r hr
  | _ =>
    cases h
    cases hr

end Resolve

end Call
end SqlBuilder
