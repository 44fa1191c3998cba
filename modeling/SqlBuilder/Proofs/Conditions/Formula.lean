import Mathlib.Data.List.Forall2
import SqlBuilder.Condition

/-!
# Formulas of conditions

What a condition means, apart from any text: atoms, grouped under AND or OR to any depth. A formula
is looked at in two ways that know nothing of each other. It has a value once its atoms have truth
values (`Formula.value`), and it has a canonical spelling in atoms, connectives and parentheses
(`Formula.lexemes`): a group of several members stands in parentheses, a group of one member is
that member, and a group without members is nothing.

`read` is what a database does with a spelling: it goes over the lexemes once, from left to right,
and lets AND bind tighter than OR. `read_lexemes` says that it finds the value of the formula that
was spelled, so the spelling keeps the meaning.
-/

namespace SqlBuilder

/-- Atoms in groups. -/
inductive Formula (α : Type) where
  | atom (a : α)
  | group (connective : Connective) (members : List (Formula α))
deriving Inhabited

/-! ## Meaning -/

/-- The value of several conditions under the connective. -/
def Connective.holds : Connective → List Bool → Bool
  | .and, bs => bs.all id
  | .or, bs => bs.any id

/-- Several values as one. No values are no value, not a true or a false one. -/
def Connective.verdict (connective : Connective) : List Bool → Option Bool
  | [] => none
  | bs => some (connective.holds bs)

theorem Connective.verdict_of_ne_nil {connective : Connective} {bs : List Bool} (h : bs ≠ []) :
    connective.verdict bs = some (connective.holds bs) := by
  cases bs with
  | nil => exact absurd rfl h
  | cons b bs => rfl

namespace Formula

variable {α : Type}

mutual

/-- The truth value of a formula, which a formula without atoms does not have. -/
def value (V : α → Bool) : Formula α → Option Bool
  | atom a => some (V a)
  | group connective members => connective.verdict (values V members)

/-- The truth values of those members that have one. -/
def values (V : α → Bool) : List (Formula α) → List Bool
  | [] => []
  | t :: ts => (value V t).toList ++ values V ts

end

mutual

def atoms : Formula α → List α
  | atom a => [a]
  | group _ members => atomsOfMembers members

def atomsOfMembers : List (Formula α) → List α
  | [] => []
  | t :: ts => atoms t ++ atomsOfMembers ts

end

end Formula

/-! ## Spelling -/

/-- What a condition is spelled in. An atom is taken as it is, whatever its text. -/
inductive Lexeme where
  | atom (sql : String)
  | word (connective : Connective)
  | opening
  | closing
deriving DecidableEq, Repr

namespace Lexeme

def text : Lexeme → String
  | atom sql => sql
  | word .and => " AND "
  | word .or => " OR "
  | opening => "("
  | closing => ")"

def atom? : Lexeme → Option String
  | atom sql => some sql
  | _ => none

/-- Lexemes one after the other. -/
def run : List Lexeme → String
  | [] => ""
  | l :: ls => l.text ++ run ls

/-- The text of a spelling, or nothing where there is nothing to write. -/
def written (ls : List Lexeme) : Option String := if ls = [] then none else some (run ls)

/-- Spellings with the connective between them. -/
def separated (connective : Connective) : List (List Lexeme) → List Lexeme
  | [] => []
  | [ls] => ls
  | ls :: ms :: rest => ls ++ word connective :: separated connective (ms :: rest)

/-- The spelling of a group: in parentheses if it has several members. -/
def grouped (connective : Connective) : List (List Lexeme) → List Lexeme
  | [] => []
  | [ls] => ls
  | ls :: ms :: rest => opening :: separated connective (ls :: ms :: rest) ++ [closing]

theorem grouped_ne_nil {connective : Connective} {spelled : List (List Lexeme)}
    (h : spelled ≠ []) (hs : ∀ ls ∈ spelled, ls ≠ []) : grouped connective spelled ≠ [] := by
  match spelled with
  | [] => exact absurd rfl h
  | [ls] => exact hs ls (List.mem_singleton_self ls)
  | _ :: _ :: _ => exact List.cons_ne_nil _ _

end Lexeme

namespace Formula

mutual

/-- The canonical spelling of a formula. -/
def lexemes : Formula String → List Lexeme
  | atom sql => [.atom sql]
  | group connective members => Lexeme.grouped connective (spellings members)

/-- The spellings of those members that have one. -/
def spellings : List (Formula String) → List (List Lexeme)
  | [] => []
  | t :: ts => if lexemes t = [] then spellings ts else lexemes t :: spellings ts

end

/-- The canonical print of a formula. -/
def print (t : Formula String) : Option String := Lexeme.written t.lexemes

/-- The prints of those formulas that have one. -/
def printAll (ts : List (Formula String)) : List String := ts.filterMap print

end Formula

/-! ## Reading -/

/-- What has been read of a level: whether one of its finished runs of ANDs is true, and whether
all is true in the current run before the operand that is being read. -/
structure Level where
  anyRun : Bool := false
  inRun : Bool := true

namespace Level

/-- The value of the level if it ends with this operand. -/
def close (l : Level) (b : Bool) : Bool := l.anyRun || (l.inRun && b)

/-- The level after an operand and a connective. -/
def next (l : Level) (b : Bool) : Connective → Level
  | .and => { l with inRun := l.inRun && b }
  | .or => { anyRun := l.close b }

end Level

/-- Read lexemes, given the levels around the current one, that level, and the operand that was
just read, if one was. There is no value unless all is well formed. -/
def readFrom (V : String → Bool) : List Level → Level → Option Bool → List Lexeme → Option Bool
  | outer, l, none, .atom a :: ls => readFrom V outer l (some (V a)) ls
  | outer, l, none, .opening :: ls => readFrom V (l :: outer) {} none ls
  | outer, l, some b, .word connective :: ls => readFrom V outer (l.next b connective) none ls
  | m :: outer, l, some b, .closing :: ls => readFrom V outer m (some (l.close b)) ls
  | [], l, some b, [] => some (l.close b)
  | _, _, _, _ => none

/-- The truth value of a spelling, by its parentheses and with AND before OR. -/
def read (V : String → Bool) (ls : List Lexeme) : Option Bool := readFrom V [] {} none ls

/-- Wherever an operand is due, the lexemes are read as one of this value. -/
def Reads (V : String → Bool) (ls : List Lexeme) (b : Bool) : Prop :=
  ∀ outer l rest, readFrom V outer l none (ls ++ rest) = readFrom V outer l (some b) rest

theorem Reads.read_eq {V : String → Bool} {ls : List Lexeme} {b : Bool} (h : Reads V ls b) :
    read V ls = some b := by
  have hread := h [] {} []
  rw [List.append_nil] at hread
  rw [read, hread, readFrom, Level.close, Bool.false_or, Bool.true_and]

/-! ## Reading a spelling -/

section Reading

variable {V : String → Bool}

/-- What is left to read of a level once its operands, all under one connective, are gone
through. -/
theorem exists_readFrom_separated (connective : Connective) {b : Bool} {bs : List Bool}
    {ls : List Lexeme} {rest : List (List Lexeme)} (h : Reads V ls b)
    (hs : List.Forall₂ (Reads V) rest bs) (outer : List Level) (l : Level) (tail : List Lexeme) :
    ∃ m c, readFrom V outer l none (Lexeme.separated connective (ls :: rest) ++ tail) =
        readFrom V outer m (some c) tail ∧
      m.close c = match connective with
        | .and => l.close (b && bs.all id)
        | .or => l.close b || bs.any id := by
  induction hs generalizing ls b l with
  | nil =>
    refine ⟨l, b, h outer l tail, ?_⟩
    cases connective <;> simp
  | @cons ls' b' rest bs h' _ ih =>
    obtain ⟨m, c, hread, hclose⟩ := ih h' (l.next b connective)
    refine ⟨m, c, ?_, ?_⟩
    · rw [Lexeme.separated, List.append_assoc, h, List.cons_append, readFrom, hread]
    · rw [hclose]
      cases connective <;> cases l <;> simp [Level.next, Level.close, Bool.and_assoc, Bool.or_assoc]

theorem reads_grouped (connective : Connective) {b : Bool} {bs : List Bool}
    {spelled : List (List Lexeme)} (h : List.Forall₂ (Reads V) spelled (b :: bs)) :
    Reads V (Lexeme.grouped connective spelled) (connective.holds (b :: bs)) := by
  cases h with
  | @cons ls _ rest _ hhead htail =>
    cases htail with
    | nil => cases connective <;> simpa [Lexeme.grouped, Connective.holds] using hhead
    | @cons ls' b' rest bs hnext htail =>
      intro outer l tail
      obtain ⟨m, c, hread, hclose⟩ := exists_readFrom_separated connective hhead
        (.cons hnext htail) (l :: outer) {} (.closing :: tail)
      simp only [Lexeme.grouped, List.cons_append, List.append_assoc, List.nil_append]
      rw [readFrom, hread, readFrom, hclose]
      cases connective <;> simp [Level.close, Connective.holds]

end Reading

namespace Formula

theorem ne_nil_of_mem_spellings {ts : List (Formula String)} {ls : List Lexeme}
    (h : ls ∈ spellings ts) : ls ≠ [] := by
  induction ts with
  | nil => cases h
  | cons t ts ih =>
    rw [spellings] at h
    split at h
    · exact ih h
    · rcases List.mem_cons.1 h with rfl | h
      · assumption
      · exact ih h

mutual

/-- A formula is spelled with something to read just if it has a value, and is read as that. -/
theorem reads_lexemes (V : String → Bool) : (t : Formula String) →
    (t.value V = none ∧ t.lexemes = []) ∨
      ∃ b, t.value V = some b ∧ t.lexemes ≠ [] ∧ Reads V t.lexemes b
  | atom sql => .inr ⟨V sql, rfl, List.cons_ne_nil _ _, fun _ _ _ => rfl⟩
  | group connective members => by
    have h := reads_spellings V members
    rw [value, lexemes]
    cases hvalues : values V members with
    | nil =>
      rw [hvalues] at h
      rw [List.forall₂_nil_right_iff.1 h]
      exact .inl ⟨rfl, rfl⟩
    | cons b bs =>
      rw [hvalues] at h
      have hne : spellings members ≠ [] := fun hnil => by
        rw [hnil] at h
        cases h
      exact .inr ⟨_, rfl, Lexeme.grouped_ne_nil hne fun ls => ne_nil_of_mem_spellings,
        reads_grouped connective h⟩

theorem reads_spellings (V : String → Bool) : (ts : List (Formula String)) →
    List.Forall₂ (Reads V) (spellings ts) (values V ts)
  | [] => .nil
  | t :: ts => by
    rw [spellings, values]
    rcases reads_lexemes V t with ⟨hvalue, hlexemes⟩ | ⟨b, hvalue, hlexemes, hreads⟩
    · rw [if_pos hlexemes, hvalue]
      exact reads_spellings V ts
    · rw [if_neg hlexemes, hvalue]
      exact .cons hreads (reads_spellings V ts)

end

/-- Reading the spelling of a formula finds its value. -/
theorem read_lexemes (V : String → Bool) (t : Formula String) : read V t.lexemes = t.value V := by
  rcases reads_lexemes V t with ⟨hvalue, hlexemes⟩ | ⟨b, hvalue, -, hreads⟩
  · rw [hvalue, hlexemes]
    rfl
  · rw [hvalue, hreads.read_eq]

end Formula

/-! ## Printing -/

namespace Lexeme

theorem run_append (ls ms : List Lexeme) : run (ls ++ ms) = run ls ++ run ms := by
  induction ls with
  | nil => rw [List.nil_append, run, String.empty_append]
  | cons l ls ih => rw [List.cons_append, run, run, ih, String.append_assoc]

theorem text_word (connective : Connective) :
    (word connective).text = " " ++ connective.keyword ++ " " := by
  cases connective <;> decide

theorem run_separated (connective : Connective) (spelled : List (List Lexeme)) :
    run (separated connective spelled) =
      (" " ++ connective.keyword ++ " ").intercalate (spelled.map run) := by
  induction spelled with
  | nil => rfl
  | cons ls rest ih =>
    cases rest with
    | nil => rw [separated, List.map_singleton, String.intercalate_singleton]
    | cons ms rest =>
      simp only [separated, run_append, run, ih, text_word, List.map_cons,
        String.intercalate_cons_cons, String.append_assoc]

theorem written_grouped {connective : Connective} {spelled : List (List Lexeme)}
    (hs : ∀ ls ∈ spelled, ls ≠ []) :
    written (grouped connective spelled) = Condition.joined connective (spelled.map run) := by
  match spelled with
  | [] => rfl
  | [ls] => exact if_neg (hs ls (List.mem_singleton_self ls))
  | ls :: ms :: rest =>
    have hsep := run_separated connective (ls :: ms :: rest)
    rw [written, if_neg (grouped_ne_nil (List.cons_ne_nil _ _) hs), grouped, run_append, run, hsep]
    rfl

theorem filterMap_separated (connective : Connective) (spelled : List (List Lexeme)) :
    (separated connective spelled).filterMap atom? = spelled.flatMap (List.filterMap atom?) := by
  induction spelled with
  | nil => rfl
  | cons ls rest ih =>
    cases rest with
    | nil => simp [separated]
    | cons ms rest =>
      rw [separated, List.filterMap_append, List.filterMap_cons, ih, List.flatMap_cons]
      rfl

theorem filterMap_grouped (connective : Connective) (spelled : List (List Lexeme)) :
    (grouped connective spelled).filterMap atom? = spelled.flatMap (List.filterMap atom?) := by
  match spelled with
  | [] => rfl
  | [ls] => simp [grouped]
  | ls :: ms :: rest =>
    rw [grouped, List.filterMap_append, List.filterMap_cons, filterMap_separated]
    simp [atom?]

end Lexeme

namespace Formula

theorem printAll_eq (ts : List (Formula String)) : printAll ts = (spellings ts).map Lexeme.run := by
  induction ts with
  | nil => rfl
  | cons t ts ih =>
    rw [printAll, List.filterMap_cons, print, Lexeme.written, spellings]
    by_cases h : t.lexemes = []
    · rw [if_pos h, if_pos h]
      exact ih
    · rw [if_neg h, if_neg h]
      exact congrArg _ ih

/-- A group is printed as its members are joined. -/
theorem print_group (connective : Connective) (members : List (Formula String)) :
    print (group connective members) = Condition.joined connective (printAll members) := by
  rw [print, lexemes, Lexeme.written_grouped fun ls => ne_nil_of_mem_spellings, printAll_eq]

@[simp] theorem print_atom (sql : String) : print (atom sql) = some sql := by
  rw [print, lexemes, Lexeme.written, if_neg (List.cons_ne_nil _ _), Lexeme.run, Lexeme.run,
    String.append_empty, Lexeme.text]

mutual

/-- The spelling of a formula has its atoms, in order. -/
theorem filterMap_lexemes : (t : Formula String) → t.lexemes.filterMap Lexeme.atom? = t.atoms
  | atom _ => rfl
  | group connective members => by
    rw [lexemes, Lexeme.filterMap_grouped, atoms, flatMap_spellings]

theorem flatMap_spellings : (ts : List (Formula String)) →
    (spellings ts).flatMap (List.filterMap Lexeme.atom?) = atomsOfMembers ts
  | [] => rfl
  | t :: ts => by
    have ht := filterMap_lexemes t
    rw [spellings, atomsOfMembers, ← ht, ← flatMap_spellings ts]
    split
    · rename_i hnil
      rw [hnil, List.filterMap_nil, List.nil_append]
    · rw [List.flatMap_cons]

end

end Formula
end SqlBuilder
