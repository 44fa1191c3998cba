import SqlBuilder.Call
import SqlBuilder.Query.Compile
import SqlBuilder.Query.Snapshot

/-!
# Sessions

A session is a script of commands on named queries. What outlives a single query is shared by all
of them: the counter behind generated names, and the choice whether new queries use bound
parameters. Where a command names other queries, they are taken as they are at that moment.

`Session.step` carries out one command. Its outcome is the answer, the parts of the query that
the command changed, and the events it gave rise to. A command that fails may have changed
something all the same.
-/

namespace SqlBuilder

/-- Something worth a line in a log. -/
inductive Event where
  | compiled (action : Action) (count : Nat) (sql : String)
  | executing (action : Option Action) (count : Nat)
  | executionFailed (error sql : String)
  /-- Bindings were taken over from another query. -/
  | absorbed (note : Note)
deriving DecidableEq, Repr

/-- A setting of a new query. -/
inductive Setting where
  | boundParameters (enable : Bool)
  | literalValues
  | debug (enable : Bool)
deriving DecidableEq, Repr

/-- Where a new query comes from. -/
inductive Creation where
  | blank
  | configured (settings : List Setting)
  | snapshot (j : Json)
  | copy (name : String)
  /-- A snapshot of another query, written and read. -/
  | reread (name : String)
  | acting (a : Action)
  | inserting (mode : InsertMode)
  | actingOn (a : Action) (table : String)

/-- A command on named queries. -/
inductive Command where
  | create (name : String) (how : Creation)
  | setDefaultBound (enable : Bool)
  | call (name : String) (c : Call String)
  | compile (name : String)
  | literalText (name : String)
  | state (name : String)
  | equals (name other : String)
  /-- Run the compiled query; it fails with the given reason, if there is one. -/
  | exec (name : String) (reason : Option String)

/-- What an execution came to: the statements that were handed over, and the number of values or
the failure. -/
structure Execution where
  calls : List Compiled
  result : Except Failure Nat

/-- The answer of a command that succeeds. -/
inductive Answer where
  | done
  | flag (b : Bool)
  | text (s : String)
  | compiled (c : Compiled)
  | state (q : Query)
  | execution (e : Execution)

/-- Why a command was refused. -/
inductive Refusal where
  | failure (f : Failure)
  | noQuery
  /-- The snapshot of a query cannot be read. -/
  | unreadable

/-- What a command came to. -/
structure Outcome where
  answer : Except Refusal Answer
  changed : List (String × Json) := []
  events : List Event := []

/-- The state that a script runs on. -/
structure Session where
  queries : Dict Query := .empty
  /-- The number of names generated so far. -/
  lastId : Nat := 0
  /-- Whether new queries use bound parameters. -/
  defaultBound : Bool := true

/-! ## Events of compiling and executing -/

namespace Query

/-- The event of a successful compilation, for a query that is being debugged. -/
def compileEvents (q : Query) : List Event :=
  match q.action, q.compile with
  | some action, .ok c => if q.debug then [.compiled action c.data.length c.query] else []
  | _, _ => []

/-- Hand the compiled query over, once. -/
def execute (q : Query) (reason : Option String) : Execution × List Event :=
  match q.compile with
  | .error f => (⟨[], .error f⟩, [])
  | .ok c =>
    let started := q.compileEvents ++ [.executing q.action c.data.length]
    match reason with
    | none => (⟨[c], .ok c.data.length⟩, started)
    | some r => (⟨[c], .error (.execution r)⟩, started ++ [.executionFailed r c.query])

end Query

/-! ## Steps -/

namespace Creation

/-- Apply a setting to a new query. -/
def configure (q : Query) : Setting → Query
  | .boundParameters enable => { q with boundParameters := enable }
  | .literalValues => { q with boundParameters := false }
  | .debug enable => { q with debug := enable }

/-- The new query, which starts from `fresh` unless it is made from another one. -/
def query (s : Session) (fresh : Query) : Creation → Except Refusal Query
  | blank => .ok fresh
  | configured settings => .ok (settings.foldl configure fresh)
  | snapshot j => (Snapshot.query? fresh j).elim (.error .unreadable) .ok
  | copy name => (s.queries.get? name).elim (.error .noQuery) .ok
  | reread name =>
    match s.queries.get? name with
    | none => .error .noQuery
    | some q => (Snapshot.query? fresh (Snapshot.ofQuery q)).elim (.error .unreadable) .ok
  | acting a => .ok { fresh with action := a }
  | inserting mode => .ok { fresh with action := some .insert, insertMode := mode }
  | actingOn a table => .ok { fresh with action := a, tableName := table }

end Creation

namespace Session

/-- The query that a creation starts from. -/
def fresh (s : Session) : Query := { boundParameters := s.defaultBound }

/-- An answer about a query that changes nothing. -/
def inspect (s : Session) (name : String) (look : Query → Outcome) : Outcome :=
  match s.queries.get? name with
  | some q => look q
  | none => ⟨.error .noQuery, [], []⟩

/-- The answer to a computation that can fail. -/
def answerOf {α : Type} (answer : α → Answer) : Except Failure α → Except Refusal Answer
  | .ok a => .ok (answer a)
  | .error f => .error (.failure f)

/-- Carry out a call on a query. -/
def edit (s : Session) (name : String) (q : Query) (c : Call Query) : Outcome × Session :=
  let (result, d) := c.run ⟨q, s.lastId, []⟩
  let outcome : Outcome :=
    { answer := answerOf (·.elim .done .text) result
      changed := Snapshot.changes q d.query
      events := d.notes.map .absorbed }
  (outcome, { s with queries := s.queries.insert name d.query, lastId := d.lastId })

/-- Carry out one command. -/
def step (s : Session) : Command → Outcome × Session
  | .create name how =>
    match how.query s s.fresh with
    | .ok q =>
      (⟨.ok .done, Snapshot.changes {} q, []⟩, { s with queries := s.queries.insert name q })
    | .error r => (⟨.error r, [], []⟩, s)
  | .setDefaultBound enable => (⟨.ok (.flag enable), [], []⟩, { s with defaultBound := enable })
  | .call name c =>
    match s.queries.get? name, c.resolve s.queries.get? with
    | some q, some c => s.edit name q c
    | _, _ => (⟨.error .noQuery, [], []⟩, s)
  | .compile name =>
    (s.inspect name fun q => ⟨answerOf .compiled q.compile, [], q.compileEvents⟩, s)
  | .literalText name =>
    (s.inspect name fun q =>
      ⟨answerOf .text q.literalText, [], q.withLiterals.compileEvents⟩, s)
  | .state name => (s.inspect name fun q => ⟨.ok (.state q), [], []⟩, s)
  | .equals name other =>
    (s.inspect name fun q => s.inspect other fun r => ⟨.ok (.flag (q.equals r)), [], []⟩, s)
  | .exec name reason =>
    (s.inspect name fun q =>
      let (execution, events) := q.execute reason
      ⟨.ok (.execution execution), [], events⟩, s)

/-- Carry out a script. -/
def run (s : Session) : List Command → List Outcome × Session
  | [] => ([], s)
  | c :: cs =>
    let (outcome, s) := s.step c
    let (outcomes, s) := s.run cs
    (outcome :: outcomes, s)

end Session
end SqlBuilder
