import SqlBuilder.Proofs.Merging.TakesOver

/-!
# Quoted names are read back

`Identifier.read?` reads a name between backticks, in which a doubled backtick stands for one, and
`Identifier.readTable?` a table with an optional database before it. What is written for a table is
read back as this database and this table, whatever the names hold (`readTable?_table_append`): a
dot between two names stands behind a single backtick, and inside a name there is none.

The name of a sub-query comes behind a blank, and reading it backwards needs another argument. In a
quoted name every run of backticks inside is of even length, and one that opens a name behind a
blank would be odd (`escaped_ne_append_blank`). So the last blank before a single backtick is where
the name begins, even though text and name of the sub-query may hold anything.
-/

namespace SqlBuilder

namespace Identifier

/-! ## Reading a name -/

/-- A name whose opening backtick has been read, and what comes after it. -/
def name? : List Char → Option (List Char × List Char)
  | [] => none
  | '\x60' :: '\x60' :: rest => do
    let (cs, rest) ← name? rest
    return ('\x60' :: cs, rest)
  | '\x60' :: rest => some ([], rest)
  | c :: rest => do
    let (cs, rest) ← name? rest
    return (c :: cs, rest)

/-- Read a quoted name: the name and what comes after it. -/
def read? (s : String) : Option (String × String) :=
  match s.toList with
  | '\x60' :: cs => (name? cs).map fun (cs, rest) => (.ofList cs, .ofList rest)
  | _ => none

/-- Read a table: the database if there is one, the table, and what comes after it. -/
def readTable? (s : String) : Option (Option String × String × String) := do
  let (first, rest) ← read? s
  match rest.toList with
  | '.' :: cs =>
    let (second, rest) ← read? (.ofList cs)
    return (some first, second, rest)
  | _ => return (none, first, rest)

/-! ## Reading what was written -/

/-- The reader takes an escaped character as a whole, whatever comes after it. -/
theorem name?_escape_append (c : Char) (rest : List Char) :
    name? (escape c ++ rest) = (name? rest).map fun (cs, rest) => (c :: cs, rest) := by
  by_cases hc : c = mark
  · subst hc
    rw [Option.map_eq_bind]
    rfl
  · have hc' : c ≠ '\x60' := hc
    rw [escape, if_neg hc, List.singleton_append, name?.eq_def, Option.map_eq_bind]
    split
    case h_4 heq => cases heq; rfl
    all_goals simp_all

theorem name?_escaped_append (cs : List Char) {rest : List Char} (h : rest.head? ≠ some mark) :
    name? (cs.flatMap escape ++ mark :: rest) = some (cs, rest) := by
  induction cs with
  | nil =>
    cases rest with
    | nil => rfl
    | cons c rest =>
      have hc : c ≠ '\x60' := fun hc => h (hc ▸ rfl)
      simp [name?, mark, hc]
  | cons c cs ih => rw [List.flatMap_cons, List.append_assoc, name?_escape_append, ih]; rfl

theorem read?_quote_append (name : String) {rest : String} (h : rest.toList.head? ≠ some mark) :
    read? (quote name ++ rest) = some (name, rest) := by
  have hread := name?_escaped_append name.toList h
  simp only [mark] at hread
  simp [read?, quote, quoteChars, mark, hread]

theorem read?_quote (name : String) : read? (quote name) = some (name, "") := by
  simpa using @read?_quote_append name "" (by simp)

theorem quote_injective : Function.Injective quote := fun m n h => by
  have hread : some (m, "") = some (n, "") := by rw [← read?_quote m, h, read?_quote n]
  exact congrArg Prod.fst (Option.some.inj hread)

theorem readTable?_table_append (database : Option String) (name : String) {rest : String}
    (hmark : rest.toList.head? ≠ some mark) (hdot : rest.toList.head? ≠ some '.') :
    readTable? (table database name none ++ rest) = some (database, name, rest) := by
  cases database with
  | none =>
    have hread : read? (table none name none ++ rest) = some (name, rest) := by
      simpa [table] using read?_quote_append name hmark
    simp only [readTable?, hread, Option.bind_eq_bind, Option.bind_some]
    split
    · next h => exact absurd (by rw [h]; rfl) hdot
    · rfl
  | some d =>
    have hread : read? (table (some d) name none ++ rest) =
        some (d, "." ++ (quote name ++ rest)) := by
      have h := @read?_quote_append d ("." ++ (quote name ++ rest)) (by simp [mark])
      simpa [table, String.append_assoc] using h
    have hlist : ("." ++ (quote name ++ rest)).toList = '.' :: (quote name ++ rest).toList := by
      simp
    simp [readTable?, hread, hlist, read?_quote_append name hmark]

/-! ## Names behind a blank -/

theorem count_escaped (cs : List Char) : (cs.flatMap escape).count mark = 2 * cs.count mark := by
  induction cs with
  | nil => rfl
  | cons c cs ih =>
    rw [List.flatMap_cons, List.count_append, ih, escape]
    split
    · next hc => subst hc; simp; omega
    · next hc => simp [hc]

/-- A blank is no part of a doubled backtick, so what comes after it was escaped on its own. -/
theorem escaped_of_append_blank {cs before after : List Char}
    (h : cs.flatMap escape = before ++ ' ' :: after) :
    ∃ ds : List Char, after = ds.flatMap escape := by
  induction cs generalizing before with
  | nil => simp at h
  | cons c cs ih =>
    rw [List.flatMap_cons, escape] at h
    split at h
    · cases before with
      | nil => simp [mark] at h
      | cons b before =>
        cases before with
        | nil => simp [mark] at h
        | cons b' before =>
          have htail : cs.flatMap escape = before ++ ' ' :: after :=
            (List.cons.inj (List.cons.inj h).2).2
          exact ih htail
    · cases before with
      | nil => exact ⟨cs, (List.cons.inj h).2.symm⟩
      | cons b before =>
        have htail : cs.flatMap escape = before ++ ' ' :: after := (List.cons.inj h).2
        exact ih htail

/-- Inside a quoted name no blank is followed by an odd number of backticks, so no other quoted
name ends with it. -/
theorem escaped_ne_append_blank (cs ds before : List Char) :
    cs.flatMap escape ≠ before ++ ' ' :: mark :: ds.flatMap escape := by
  intro h
  obtain ⟨es, hes⟩ := escaped_of_append_blank h
  have hcount := congrArg (List.count mark) hes
  rw [List.count_cons_self, count_escaped, count_escaped] at hcount
  omega

/-- Of two quoted names behind a blank at the end of one text, neither begins before the other. -/
theorem eq_nil_of_blank_escaped {cs ds between : List Char}
    (h : ' ' :: mark :: cs.flatMap escape = between ++ ' ' :: mark :: ds.flatMap escape) :
    between = [] := by
  match between, h with
  | [], _ => rfl
  | [_], h => simp [mark] at h
  | _ :: _ :: between, h =>
    have htail := (List.cons.inj (List.cons.inj h).2).2
    exact absurd htail (escaped_ne_append_blank cs ds between)

theorem append_blank_escaped_inj {xs ys cs ds : List Char}
    (h : xs ++ ' ' :: mark :: cs.flatMap escape = ys ++ ' ' :: mark :: ds.flatMap escape) :
    xs = ys := by
  rcases List.append_eq_append_iff.mp h with ⟨between, rfl, hname⟩ | ⟨between, rfl, hname⟩
  · simp [eq_nil_of_blank_escaped hname]
  · simp [eq_nil_of_blank_escaped hname]

theorem toList_append_blank_quote (s name : String) :
    (s ++ " " ++ quote name).toList =
      s.toList ++ ' ' :: mark :: name.toList.flatMap escape ++ [mark] := by
  simp [quote, quoteChars]

/-- A text and the quoted name behind it can be told apart from the end, whatever they hold. -/
theorem append_blank_quote_inj {s t m n : String}
    (h : s ++ " " ++ quote m = t ++ " " ++ quote n) : s = t ∧ m = n := by
  have hchars := congrArg String.toList h
  rw [toList_append_blank_quote, toList_append_blank_quote] at hchars
  have hst : s = t := String.ext (append_blank_escaped_inj (List.append_cancel_right hchars))
  subst hst
  exact ⟨rfl, quote_injective ((String.append_right_inj _).mp h)⟩

end Identifier

namespace Query

open Identifier

theorem source_eq_table {q : Query} {name : String} (hsubquery : q.subquery = none)
    (halias : q.aliasName = none) (hname : q.tableName = some name) :
    q.source = table q.database name none := by
  rw [source, hsubquery, halias, hname]
  rfl

theorem embedding_inj {p q : Query} {m n : Nat} (h : p.embedding m = q.embedding n) :
    p.selectText = q.selectText ∧ p.nameFrom m = q.nameFrom n := by
  have hsplit (r : Query) (k : Nat) :
      r.embedding k = "(" ++ r.selectText ++ ") as" ++ " " ++ quote (r.nameFrom k) := by
    have hblank : (") as " : String) = ") as" ++ " " := rfl
    rw [embedding, hblank, ← String.append_assoc]
  rw [hsplit, hsplit] at h
  obtain ⟨htext, hname⟩ := append_blank_quote_inj h
  exact ⟨(String.append_right_inj _).mp ((String.append_left_inj _).mp htext), hname⟩

/-- The names in a text can be read back. The source of a query without an alias is read as its
database and its table, up to where it ends, so no two sources are written alike. The name of a
sub-query is read likewise, and from the text that a sub-query leaves in another query both what is
selected and the name can be told. -/
theorem names_read_back :
    (∀ (database : Option String) (name rest : String),
      rest.toList.head? ≠ some mark → rest.toList.head? ≠ some '.' →
      readTable? (table database name none ++ rest) = some (database, name, rest)) ∧
    (∀ (q : Query) (name rest : String),
      q.subquery = none → q.aliasName = none → q.tableName = some name →
      rest.toList.head? ≠ some mark → rest.toList.head? ≠ some '.' →
      readTable? (q.source ++ rest) = some (q.database, name, rest)) ∧
    (∀ (database database' : Option String) (name name' : String),
      table database name none = table database' name' none →
      database = database' ∧ name = name') ∧
    (∀ name rest : String, rest.toList.head? ≠ some mark →
      read? (quote name ++ rest) = some (name, rest)) ∧
    ∀ (p q : Query) (b c : Binder) (text : String),
      (p.embed b).1 = .ok text → (q.embed c).1 = .ok text →
      p.selectText = q.selectText ∧ p.nameFrom b.lastId = q.nameFrom c.lastId := by
  refine ⟨fun _ _ _ => readTable?_table_append _ _, ?_, ?_, fun _ _ => read?_quote_append _, ?_⟩
  · intro q name rest hsubquery halias hname hmark hdot
    rw [source_eq_table hsubquery halias hname]
    exact readTable?_table_append _ _ hmark hdot
  · intro database database' name name' h
    have hread (d : Option String) (n : String) :
        readTable? (table d n none) = some (d, n, "") := by
      simpa using @readTable?_table_append d n "" (by simp) (by simp)
    have hsome := (hread database name).symm.trans (h ▸ hread database' name')
    simpa using hsome
  · intro p q b c text hp hq
    have hp' := (embed_eq_ok (Prod.ext hp rfl)).1
    exact embedding_inj (hp'.symm.trans (embed_eq_ok (Prod.ext hq rfl)).1)

/-- Names that look like the separator between a database and a table, and a sub-query whose name
looks like the end of one. -/
theorem names_read_back_separator :
    let q : Query := { database := "\x60.\x60", tableName := "\x60\x60", asName := ") as \x60t" }
    (" WHERE" : String).toList.head? ≠ some mark ∧ (" WHERE" : String).toList.head? ≠ some '.' ∧
    readTable? (table (some "\x60.\x60") "\x60\x60" none ++ " WHERE") =
      some (some "\x60.\x60", "\x60\x60", " WHERE") ∧
    readTable? (q.source ++ " WHERE") = some (some "\x60.\x60", "\x60\x60", " WHERE") ∧
    read? (quote "t\x60" ++ " WHERE") = some ("t\x60", " WHERE") ∧
    (q.embed ⟨.empty, 0, []⟩).1 = .ok (q.embedding 0) ∧ q.nameFrom 0 = q.nameFrom 1 := by
  intro q
  have hmark : (" WHERE" : String).toList.head? ≠ some mark := by decide
  have hdot : (" WHERE" : String).toList.head? ≠ some '.' := by decide
  have hembed (n : Nat) : (q.embed ⟨.empty, n, []⟩).1 = .ok (q.embedding 0) := by
    obtain ⟨c, hc, -⟩ := embed_apply (q := q) (by decide) ⟨.empty, n, []⟩
    rw [hc]
    rfl
  obtain ⟨htable, hsource, -, hname, hinside⟩ := names_read_back
  exact ⟨hmark, hdot, htable _ _ _ hmark hdot, hsource _ _ _ rfl rfl rfl hmark hdot,
    hname _ _ hmark, hembed 0, (hinside q q _ _ _ (hembed 0) (hembed 1)).2⟩

end Query
end SqlBuilder
