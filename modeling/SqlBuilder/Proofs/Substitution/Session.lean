import SqlBuilder.Proofs.Substitution.Call
import SqlBuilder.Proofs.Substitution.Compile
import SqlBuilder.Session

/-!
# Values never reach the text

Two scripts that differ only in values are run on sessions that differ only in values. One command
keeps the sessions alike (`step_alike`), so a whole run does, and on the way every call comes to
the same result on both sides, and every query with bound parameters compiles to the same text
(`values_never_reach_text`). The data that go with the text are related position by position by
the substitution the two scripts differ by. The smaller a substitution is chosen, the more this
says.

**Where values do show.** A query without bound parameters compiles to a text that holds the
values, and whether two queries are equal depends on them. `Session.withMarks` picks out the
commands whose answers leave values to marks. Of the others nothing is said but that they succeed
on both sides or fail in the same way.

**Snapshots.** A script may begin a query from a snapshot. A query that is written as a snapshot
and read again is left out: an infinity is written as null and cannot be read, so this can fail on
one side alone.
-/

namespace SqlBuilder

variable {σ : Substitution}

/-! ## Scripts -/

/-- The creation writes a query as a snapshot and reads it again. -/
def Creation.isReread : Creation → Bool
  | reread _ => true
  | _ => false

/-- The same command, except for the values in a call. -/
inductive Command.Alike (σ : Substitution) : Command → Command → Prop
  | create (name : String) (how : Creation) (h : how.isReread = false) :
    Alike σ (.create name how) (.create name how)
  | setDefaultBound (enable : Bool) : Alike σ (.setDefaultBound enable) (.setDefaultBound enable)
  | call (name : String) {c d : Call String} (h : c.Alike σ Eq d) :
    Alike σ (.call name c) (.call name d)
  | compile (name : String) : Alike σ (.compile name) (.compile name)
  | literalText (name : String) : Alike σ (.literalText name) (.literalText name)
  | state (name : String) : Alike σ (.state name) (.state name)
  | equals (name other : String) : Alike σ (.equals name other) (.equals name other)
  | exec (name : String) (reason : Option String) : Alike σ (.exec name reason) (.exec name reason)

/-- The same count and the same setting, and queries that are alike under the same names. -/
structure Session.Alike (σ : Substitution) (s t : Session) : Prop where
  queries : s.queries.Alike (Query.Alike σ) t.queries
  lastId : s.lastId = t.lastId
  defaultBound : s.defaultBound = t.defaultBound

/-! ## Outcomes -/

/-- The same statements up to the data, and the same result. -/
structure Execution.Alike (σ : Substitution) (e f : Execution) : Prop where
  calls : List.Forall₂ (Compiled.Alike σ true) e.calls f.calls
  result : e.result = f.result

/-- The same answer, up to the data of a compiled query and the values in a query. -/
inductive Answer.Alike (σ : Substitution) : Answer → Answer → Prop
  | done : Alike σ .done .done
  | flag (b : Bool) : Alike σ (.flag b) (.flag b)
  | text (s : String) : Alike σ (.text s) (.text s)
  | compiled {c d : Compiled} (h : c.Alike σ true d) : Alike σ (.compiled c) (.compiled d)
  | state {q r : Query} (h : q.Alike σ r) : Alike σ (.state q) (.state r)
  | execution {e f : Execution} (h : e.Alike σ f) : Alike σ (.execution e) (.execution f)

/-- What the command answers leaves all values to marks: it does not compile to literals, and it
compares no values. -/
def Session.withMarks (s : Session) : Command → Bool
  | .compile name | .exec name _ => (s.queries.get? name).all (·.boundParameters)
  | .literalText _ | .equals _ _ => false
  | _ => true

/-- The same refusal, or answers that are alike along with the same events. Answers that do not
leave all values to marks may differ in any way. -/
def Outcome.Alike (σ : Substitution) (marks : Bool) (o p : Outcome) : Prop :=
  if marks then Matched (Answer.Alike σ) o.answer p.answer ∧ o.events = p.events
  else Matched (fun _ _ => True) o.answer p.answer

/-- The outcomes of a script on a session are alike, command by command. -/
def OutcomesAlike (σ : Substitution) (s : Session) :
    List Command → List Outcome → List Outcome → Prop
  | [], os, ps => os = [] ∧ ps = []
  | c :: cs, o :: os, p :: ps =>
    o.Alike σ (s.withMarks c) p ∧ OutcomesAlike σ (s.step c).2 cs os ps
  | _, _, _ => False

theorem Outcome.Alike.of_answer {marks : Bool} {o p : Outcome}
    (h : Matched (Answer.Alike σ) o.answer p.answer) (hevents : o.events = p.events) :
    o.Alike σ marks p := by
  cases marks with
  | true => exact ⟨h, hevents⟩
  | false => exact h.imp fun _ _ _ => trivial

theorem Outcome.Alike.refused {marks : Bool} (r : Refusal) :
    Outcome.Alike σ marks ⟨.error r, [], []⟩ ⟨.error r, [], []⟩ :=
  .of_answer (.error r) rfl

/-! ## Queries in a session -/

namespace Query

theorem compileEvents_eq {q r : Query} (h : q.Alike σ r) (hb : q.boundParameters = true) :
    q.compileEvents = r.compileEvents := by
  have haction : q.action = r.action := h.congr Query.action fun _ _ => rfl
  have hdebug : q.debug = r.debug := h.congr Query.debug fun _ _ => rfl
  unfold compileEvents
  rw [← haction, ← hdebug]
  cases q.action with
  | none => rfl
  | some action =>
    exact match q.compile, r.compile, compile_alike h with
      | _, _, .error f => rfl
      | _, _, .ok hcd => by simp only [hcd.query hb, hcd.data.length_eq]

theorem execute_alike {q r : Query} (h : q.Alike σ r) (hb : q.boundParameters = true)
    (reason : Option String) :
    (q.execute reason).1.Alike σ (r.execute reason).1 ∧
      (q.execute reason).2 = (r.execute reason).2 := by
  have haction : q.action = r.action := h.congr Query.action fun _ _ => rfl
  have hevents := compileEvents_eq h hb
  have hcompile := compile_alike h
  rw [hb] at hcompile
  unfold execute
  rw [← haction, ← hevents]
  exact match q.compile, r.compile, hcompile with
    | _, _, .error f => ⟨⟨.nil, rfl⟩, rfl⟩
    | _, _, .ok hcd => by
      cases reason with
      | none => exact ⟨⟨.cons hcd .nil, by simp [hcd.data.length_eq]⟩, by simp [hcd.data.length_eq]⟩
      | some reason =>
        exact ⟨⟨.cons hcd .nil, rfl⟩, by simp [hcd.data.length_eq, hcd.query rfl]⟩

end Query

namespace Session

variable {s t : Session}

theorem Alike.inspect (h : s.Alike σ t) {marks : Bool} (name : String)
    {look look' : Query → Outcome}
    (hlook : ∀ q r, q.Alike σ r → s.queries.get? name = some q →
      (look q).Alike σ marks (look' r)) :
    (s.inspect name look).Alike σ marks (t.inspect name look') := by
  unfold Session.inspect
  exact match hq : s.queries.get? name, t.queries.get? name, h.queries.get? name with
    | _, _, .none => .refused _
    | _, _, .some hqr => hlook _ _ hqr hq

theorem answerOf_alike {α : Type} {A : α → α → Prop} {B : Answer → Answer → Prop}
    {answer : α → Answer} {r r' : Except Failure α} (h : Matched A r r')
    (hanswer : ∀ a b, A a b → B (answer a) (answer b)) :
    Matched B (answerOf answer r) (answerOf answer r') := by
  cases h with
  | error f => exact .error _
  | ok h => exact .ok (hanswer _ _ h)

theorem compile_alike (h : s.Alike σ t) (name : String) :
    (s.step (.compile name)).1.Alike σ (s.withMarks (.compile name))
      (t.step (.compile name)).1 := by
  refine h.inspect name ?_
  intro q r hqr hq
  have hcompile := Query.compile_alike hqr
  have hmarks : s.withMarks (.compile name) = q.boundParameters := by
    rw [withMarks, hq, Option.all_some]
  rw [hmarks]
  cases hb : q.boundParameters with
  | true =>
    rw [hb] at hcompile
    exact .of_answer (answerOf_alike hcompile fun _ _ hcd => .compiled hcd)
      (Query.compileEvents_eq hqr hb)
  | false => exact answerOf_alike hcompile fun _ _ _ => trivial

theorem exec_alike (h : s.Alike σ t) (name : String) (reason : Option String) :
    (s.step (.exec name reason)).1.Alike σ (s.withMarks (.exec name reason))
      (t.step (.exec name reason)).1 := by
  refine h.inspect name ?_
  intro q r hqr hq
  have hmarks : s.withMarks (.exec name reason) = q.boundParameters := by
    rw [withMarks, hq, Option.all_some]
  rw [hmarks]
  cases hb : q.boundParameters with
  | true =>
    obtain ⟨hexecution, hevents⟩ := Query.execute_alike hqr hb reason
    exact .of_answer (.ok (.execution hexecution)) hevents
  | false => exact .ok trivial

theorem literalText_alike (h : s.Alike σ t) (name : String) :
    (s.step (.literalText name)).1.Alike σ false (t.step (.literalText name)).1 := by
  refine h.inspect name ?_
  intro q r hqr _
  have hliterals : q.withLiterals.Alike σ r.withLiterals := hqr.map fun _ _ _ => rfl
  refine answerOf_alike (A := fun _ _ => True) ?_ fun _ _ _ => trivial
  have hcompile := Query.compile_alike hliterals
  unfold Query.literalText
  exact match q.withLiterals.compile, r.withLiterals.compile, hcompile with
    | _, _, .error f => .error f
    | _, _, .ok _ => .ok trivial

theorem equals_alike (h : s.Alike σ t) (name other : String) :
    (s.step (.equals name other)).1.Alike σ false (t.step (.equals name other)).1 :=
  h.inspect name fun _ _ _ _ => h.inspect other fun _ _ _ _ => .ok trivial

theorem state_alike (h : s.Alike σ t) (name : String) :
    (s.step (.state name)).1.Alike σ true (t.step (.state name)).1 :=
  h.inspect name fun _ _ hqr _ => .of_answer (.ok (.state hqr)) rfl

/-! ## Steps -/

theorem query_alike (h : s.Alike σ t) {how : Creation} (hhow : how.isReread = false) :
    Matched (Query.Alike σ) (how.query s s.fresh) (how.query t t.fresh) := by
  have hfresh : s.fresh = t.fresh := by
    rw [fresh, fresh, h.defaultBound]
  rw [← hfresh]
  cases how with
  | reread name => cases hhow
  | copy name => exact .ofOption (h.queries.get? name) Refusal.noQuery
  | snapshot j => exact .refl Query.Alike.refl _
  | _ => exact .ok (.refl _)

theorem Alike.insert (h : s.Alike σ t) (name : String) {q r : Query} (hqr : q.Alike σ r) :
    Alike σ { s with queries := s.queries.insert name q }
      { t with queries := t.queries.insert name r } :=
  ⟨h.queries.insert name hqr, h.lastId, h.defaultBound⟩

theorem edit_alike (h : s.Alike σ t) (name : String) {q r : Query} (hqr : q.Alike σ r)
    {c d : Call Query} (hcd : c.Alike σ (Query.Alike σ) d) :
    (s.edit name q c).1.Alike σ true (t.edit name r d).1 ∧
      (s.edit name q c).2.Alike σ (t.edit name r d).2 := by
  have hdraft : Draft.Alike σ ⟨q, s.lastId, []⟩ ⟨r, t.lastId, []⟩ := ⟨hqr, h.lastId, rfl⟩
  obtain ⟨hresult, hend⟩ := Call.run_alike hcd hdraft
  refine ⟨.of_answer ?_ (congrArg (List.map Event.absorbed) hend.notes),
    h.queries.insert name hend.query, hend.lastId, h.defaultBound⟩
  show Matched _ (answerOf _ (c.run _).1) (answerOf _ (d.run _).1)
  rw [hresult]
  refine answerOf_alike (.refl (A := Eq) (fun _ => rfl) _) ?_
  rintro text _ rfl
  cases text with
  | none => exact .done
  | some text => exact .text text

/-- **One command keeps sessions alike**, and its outcomes on both are alike. -/
theorem step_alike (h : s.Alike σ t) {c d : Command} (hcd : c.Alike σ d) :
    (s.step c).1.Alike σ (s.withMarks c) (t.step d).1 ∧ (s.step c).2.Alike σ (t.step d).2 := by
  cases hcd with
  | setDefaultBound enable =>
    exact ⟨.of_answer (.ok (.flag enable)) rfl, h.queries, h.lastId, rfl⟩
  | compile name => exact ⟨compile_alike h name, h⟩
  | literalText name => exact ⟨literalText_alike h name, h⟩
  | state name => exact ⟨state_alike h name, h⟩
  | equals name other => exact ⟨equals_alike h name other, h⟩
  | exec name reason => exact ⟨exec_alike h name reason, h⟩
  | create name how hhow =>
    simp only [step]
    exact match how.query s s.fresh, how.query t t.fresh, query_alike h hhow with
      | _, _, .error r => ⟨.refused r, h⟩
      | _, _, .ok hqr => ⟨.of_answer (.ok .done) rfl, h.insert name hqr⟩
  | @call name c d hcd =>
    have hresolve := Call.resolve_alike (fun q => h.queries.get? q) hcd
    simp only [step]
    exact match s.queries.get? name, t.queries.get? name, h.queries.get? name,
        c.resolve s.queries.get?, d.resolve t.queries.get?, hresolve with
      | _, _, .some hqr, _, _, .some hcd => edit_alike h name hqr hcd
      | _, _, .some _, _, _, .none => ⟨.refused .noQuery, h⟩
      | _, _, .none, _, _, _ => ⟨.refused .noQuery, h⟩

/-! ## Runs -/

/-- **Values never reach the text.** Two scripts that differ only by a substitution of values, on
sessions that differ only by it, have outcomes that are alike command by command, and leave
sessions behind that differ only by it. Here values and what takes their place are neither null
nor truth values; a plain text that names a column and a timestamp in a row are not replaced. -/
theorem values_never_reach_text {s t : Session} (h : s.Alike σ t) {cs ds : List Command}
    (hcs : List.Forall₂ (Command.Alike σ) cs ds) :
    OutcomesAlike σ s cs (s.run cs).1 (t.run ds).1 ∧ (s.run cs).2.Alike σ (t.run ds).2 := by
  induction hcs generalizing s t with
  | nil => exact ⟨⟨rfl, rfl⟩, h⟩
  | cons hcd _ ih =>
    obtain ⟨houtcome, hsession⟩ := step_alike h hcd
    obtain ⟨houtcomes, hend⟩ := ih hsession
    exact ⟨⟨houtcome, houtcomes⟩, hend⟩

/-- A text that looks like a placeholder, ends a quotation and holds a mark. -/
def markText : Value := .text "{{binding1}}' OR ?"

/-- One, replaced by `markText`. -/
def oneReplaced : Substitution where
  rel v w := v = .int 1 ∧ w = markText
  bound := by
    rintro v w ⟨rfl, rfl⟩
    exact ⟨rfl, rfl⟩

/-- A search for a value among the results of another search for it. -/
def searchFor (v : Value) : List Command :=
  [.create "inner" (.actingOn .select "t"), .call "inner" (.whereEq (.raw "a") (.value v)),
    .create "outer" (.acting .select), .call "outer" (.fromSubquery "inner" "s"),
    .call "outer" (.between "b" v (.int 9) none), .compile "outer"]

theorem searchFor_alike :
    Session.Alike oneReplaced {} {} ∧
      List.Forall₂ (Command.Alike oneReplaced) (searchFor (.int 1)) (searchFor markText) ∧
      OutcomesAlike oneReplaced {} (searchFor (.int 1)) (run {} (searchFor (.int 1))).1
        (run {} (searchFor markText)).1 ∧
      (run {} (searchFor (.int 1))).2.Alike oneReplaced (run {} (searchFor markText)).2 ∧
      ((run {} (searchFor markText)).2.queries.get? "outer").map (·.compile.toOption) =
        some (some ⟨"SELECT * FROM (SELECT * FROM `t` WHERE a = ?) as `s` WHERE b BETWEEN ? AND ?",
          [markText, markText, .int 9]⟩) := by
  have hsession : Session.Alike oneReplaced {} {} := ⟨.empty, rfl, rfl⟩
  have hvalue : oneReplaced.At (.int 1) markText := .inr ⟨rfl, rfl⟩
  have hscripts : List.Forall₂ (Command.Alike oneReplaced) (searchFor (.int 1))
      (searchFor markText) := by
    refine .cons (.create _ _ rfl) (.cons (.call _ ?_) (.cons (.create _ _ rfl) (.cons (.call _ ?_)
      (.cons (.call _ ?_) (.cons (.compile _) .nil)))))
    · exact .addCondition (.raw _) (.some (.value hvalue)) none none
    · exact .fromSubquery rfl _
    · exact .between _ hvalue (.refl _) none
  obtain ⟨houtcomes, hend⟩ := values_never_reach_text hsession hscripts
  exact ⟨hsession, hscripts, houtcomes, hend, by decide +kernel⟩

end Session
end SqlBuilder
