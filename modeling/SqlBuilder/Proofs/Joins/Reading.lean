import SqlBuilder.Proofs.Conditions.Formula
import SqlBuilder.Text.Word

/-!
# Dividing a text at its connectives

Where a condition is a text, its connectives have to be found in it. A word AND or OR, in small or
capital letters, is a connective where it stands by itself: not within parentheses or quotation
marks, and not as part of a longer word. Everything between two connectives is an atom, with the one
blank that sets it off from a connective left out. A text that does not close its parentheses or
quotation marks cannot be divided (`lexemes?`).

A text without connectives is opaque: it is one atom, whatever it says. If opaque texts are written
with connectives between them, the text divides into just these texts and connectives
(`Alternating.lexemes?_run`). Opacity is the whole condition: an opaque text closes what it opens,
so it cannot swallow the next.

To a reader that lets AND bind tighter than OR, operands under AND are one operand, whether or not
parentheses stand around them (`reads_separated_and`).
-/

namespace SqlBuilder

/-! ## Scopes -/

/-- What a character stands within. -/
inductive Scope where
  /-- So many parentheses. -/
  | code (depth : Nat)
  | quoted (depth : Nat) (mark : Char)
  /-- Behind a backslash within quotation marks. -/
  | escaped (depth : Nat) (mark : Char)
  /-- Behind a parenthesis that closes nothing. -/
  | stray
deriving DecidableEq, Repr

namespace Scope

/-- The scope behind a character. Backslashes escape nothing within backticks. -/
def next : Scope → Char → Scope
  | code depth, c =>
    if c = '(' then code (depth + 1)
    else if c = ')' then (if depth = 0 then stray else code (depth - 1))
    else if c = '"' ∨ c = '\x27' ∨ c = '`' then quoted depth c
    else code depth
  | quoted depth mark, c =>
    if c = mark then code depth
    else if c = '\\' ∧ mark ≠ '`' then escaped depth mark
    else quoted depth mark
  | escaped depth mark, _ => quoted depth mark
  | stray, _ => stray

def after (p : Scope) (cs : List Char) : Scope := cs.foldl next p

theorem after_cons (p : Scope) (c : Char) (cs : List Char) :
    p.after (c :: cs) = (p.next c).after cs := rfl

theorem after_append (p : Scope) (cs ds : List Char) : p.after (cs ++ ds) = (p.after cs).after ds :=
  List.foldl_append

end Scope

/-! ## Words and signs -/

/-- A word that stands by itself, or a character that is part of no such word. -/
inductive SqlToken where
  | word (cs : List Char)
  | sign (c : Char)
deriving DecidableEq, Repr

namespace SqlToken

/-- The character may be part of a word: of a name with its qualifiers, a number or a keyword. -/
def isPart (c : Char) : Bool := Text.isWord c || c = '.' || c = '$' || c = '@'

def chars : SqlToken → List Char
  | word cs => cs
  | sign c => [c]

/-- The connective that a word is. -/
def connective? : SqlToken → Option Connective
  | word cs =>
    if cs.map Char.toUpper = Connective.and.keyword.toList then some .and
    else if cs.map Char.toUpper = Connective.or.keyword.toList then some .or
    else none
  | sign _ => none

/-- Tokens with one more character of a word before them. -/
def extend (c : Char) : List SqlToken → List SqlToken
  | word cs :: ts => word (c :: cs) :: ts
  | ts => word [c] :: ts

/-- The tokens of a text. Within parentheses or quotation marks there are no words. -/
def ofChars : Scope → List Char → List SqlToken
  | _, [] => []
  | p, c :: cs =>
    if p = .code 0 ∧ isPart c then extend c (ofChars p cs)
    else sign c :: ofChars (p.next c) cs

theorem next_of_isPart {c : Char} (h : isPart c = true) : Scope.next (.code 0) c = .code 0 := by
  have hne {d : Char} (hd : isPart d = false) : c ≠ d := by
    rintro rfl
    rw [h] at hd
    cases hd
  have hopening : c ≠ '(' := hne (by decide)
  have hclosing : c ≠ ')' := hne (by decide)
  have hmark : ¬ (c = '"' ∨ c = '\x27' ∨ c = '`') := by
    rintro (h | h | h)
    · exact hne (by decide) h
    · exact hne (by decide) h
    · exact hne (by decide) h
  rw [Scope.next, if_neg hopening, if_neg hclosing, if_neg hmark]

/-- A sign divides the tokens of a text. -/
theorem ofChars_append {c : Char} (hc : isPart c = false) (p : Scope) (cs ds : List Char) :
    ofChars p (cs ++ c :: ds) =
      ofChars p cs ++ sign c :: ofChars ((p.after cs).next c) ds := by
  induction cs generalizing p with
  | nil =>
    have hsign : ¬ (p = .code 0 ∧ isPart c = true) := by simp [hc]
    rw [List.nil_append, ofChars, ofChars, if_neg hsign]
    rfl
  | cons d cs ih =>
    rw [List.cons_append, ofChars, ofChars]
    by_cases hpart : p = .code 0 ∧ isPart d = true
    · have hnext : p.next d = p := by
        rw [hpart.1]
        exact next_of_isPart hpart.2
      have hafter : p.after (d :: cs) = p.after cs := by rw [Scope.after_cons, hnext]
      rw [if_pos hpart, if_pos hpart, ih, hafter]
      cases ofChars p cs with
      | nil => rfl
      | cons t ts => cases t <;> rfl
    · rw [if_neg hpart, if_neg hpart, ih]
      rfl

end SqlToken

/-! ## Atoms and connectives -/

namespace Lexeme

/-- What stands before the first connective, and each connective with what follows it. -/
def cut : List SqlToken → List Char × List (Connective × List Char)
  | [] => ([], [])
  | t :: ts =>
    match t.connective? with
    | some connective => ([], (connective, (cut ts).1) :: (cut ts).2)
    | none => (t.chars ++ (cut ts).1, (cut ts).2)

theorem cut_sign (c : Char) (ts : List SqlToken) :
    cut (.sign c :: ts) = (c :: (cut ts).1, (cut ts).2) := rfl

theorem cut_word {cs : List Char} {connective : Connective}
    (h : (SqlToken.word cs).connective? = some connective) (ts : List SqlToken) :
    cut (.word cs :: ts) = ([], (connective, (cut ts).1) :: (cut ts).2) := by
  rw [cut, h]

/-- Tokens without a connective become part of what follows. -/
theorem cut_append {ts : List SqlToken} (h : (cut ts).2 = []) (us : List SqlToken) :
    cut (ts ++ us) = ((cut ts).1 ++ (cut us).1, (cut us).2) := by
  induction ts with
  | nil => rfl
  | cons t ts ih =>
    rw [cut] at h
    rw [List.cons_append, cut, cut]
    cases hword : t.connective? with
    | some connective =>
      rw [hword] at h
      cases h
    | none =>
      rw [hword] at h
      simp only [ih h, List.append_assoc]

/-- Without the blank that a connective is set off with. -/
def dropBlank : List Char → List Char
  | ' ' :: cs => cs
  | cs => cs

/-- Nothing is no atom. -/
def atomOf (cs : List Char) : List Lexeme := if cs = [] then [] else [.atom (.ofList cs)]

/-- What stands before a connective, and what follows with the connectives in between. -/
def assemble (cs : List Char) : List (Connective × List Char) → List Lexeme
  | [] => atomOf cs
  | (connective, ds) :: rest =>
    atomOf (dropBlank cs.reverse).reverse ++ .word connective :: assemble (dropBlank ds) rest

end Lexeme

/-- The atoms and connectives of a text, if it closes what it opens. -/
def lexemes? (s : String) : Option (List Lexeme) :=
  let parts := Lexeme.cut (SqlToken.ofChars (.code 0) s.toList)
  if Scope.after (.code 0) s.toList = .code 0 then some (Lexeme.assemble parts.1 parts.2) else none

/-- The text is one atom. -/
abbrev Opaque (s : String) : Prop := lexemes? s = some [.atom s]

/-! ## Opaque texts -/

namespace Lexeme

theorem assemble_eq_singleton {cs : List Char} {rest : List (Connective × List Char)} {s : String}
    (h : assemble cs rest = [.atom s]) : cs ≠ [] ∧ String.ofList cs = s ∧ rest = [] := by
  cases rest with
  | nil =>
    rw [assemble, atomOf] at h
    by_cases hcs : cs = []
    · rw [if_pos hcs] at h
      cases h
    · rw [if_neg hcs] at h
      exact ⟨hcs, Lexeme.atom.inj (List.singleton_inj.1 h), rfl⟩
  | cons connected rest =>
    have hword : word connected.1 ∈ [atom s] := by
      rw [← h, assemble]
      simp
    cases List.mem_singleton.1 hword

end Lexeme

/-- An opaque text closes what it opens, has no connective and says something. -/
theorem Opaque.cut {s : String} (h : Opaque s) :
    Scope.after (.code 0) s.toList = .code 0 ∧ s ≠ "" ∧
      Lexeme.cut (SqlToken.ofChars (.code 0) s.toList) = (s.toList, []) := by
  unfold Opaque lexemes? at h
  rcases hcut : Lexeme.cut (SqlToken.ofChars (.code 0) s.toList) with ⟨cs, rest⟩
  simp only [hcut] at h
  by_cases hafter : Scope.after (.code 0) s.toList = .code 0
  · rw [if_pos hafter] at h
    obtain ⟨hcs, htext, rfl⟩ := Lexeme.assemble_eq_singleton (Option.some.inj h)
    have hlist : s.toList = cs := by rw [← htext, String.toList_ofList]
    refine ⟨hafter, ?_, by rw [hlist]⟩
    rintro rfl
    exact hcs hlist.symm
  · rw [if_neg hafter] at h
    cases h

/-- Opaque atoms with a connective between any two. -/
inductive Alternating : List Lexeme → Prop
  | atom {s : String} (h : Opaque s) : Alternating [.atom s]
  | cons {s : String} (h : Opaque s) (connective : Connective) {ls : List Lexeme}
    (hls : Alternating ls) : Alternating (.atom s :: .word connective :: ls)

namespace Alternating

theorem append {ls ms : List Lexeme} (h : Alternating ls) (connective : Connective)
    (h' : Alternating ms) : Alternating (ls ++ .word connective :: ms) := by
  induction h with
  | atom hs => exact .cons hs connective h'
  | cons hs c _ ih => exact .cons hs c ih

theorem separated (connective : Connective) {spelled : List (List Lexeme)} (hne : spelled ≠ [])
    (h : ∀ ls ∈ spelled, Alternating ls) : Alternating (Lexeme.separated connective spelled) := by
  induction spelled with
  | nil => exact absurd rfl hne
  | cons ls rest ih =>
    obtain ⟨hfirst, hrest⟩ := List.forall_mem_cons.1 h
    cases rest with
    | nil => exact hfirst
    | cons ms rest => exact hfirst.append connective (ih (List.cons_ne_nil _ _) hrest)

end Alternating

namespace Lexeme

/-- A connective behind an opaque text divides it from what follows. -/
theorem cut_opaque {s : String} (h : Opaque s) (connective : Connective) (cs : List Char) :
    Scope.after (.code 0) (s.toList ++ (word connective).text.toList ++ cs) =
        Scope.after (.code 0) cs ∧
      cut (SqlToken.ofChars (.code 0) (s.toList ++ (word connective).text.toList ++ cs)) =
        (s.toList ++ [' '], (connective, ' ' :: (cut (SqlToken.ofChars (.code 0) cs)).1) ::
          (cut (SqlToken.ofChars (.code 0) cs)).2) := by
  obtain ⟨hafter, -, hcut⟩ := h.cut
  have hblank : SqlToken.isPart ' ' = false := by decide
  have htext : (word connective).text.toList = ' ' :: (connective.keyword.toList ++ [' ']) := by
    cases connective <;> decide
  have hkeyword : SqlToken.ofChars (.code 0) connective.keyword.toList =
      [.word connective.keyword.toList] := by
    cases connective <;> decide
  have hkeywordAfter : Scope.after (.code 0) connective.keyword.toList = .code 0 := by
    cases connective <;> decide
  have hconnective : (SqlToken.word connective.keyword.toList).connective? = some connective := by
    cases connective <;> decide
  have hparts : s.toList ++ (word connective).text.toList ++ cs =
      s.toList ++ ' ' :: (connective.keyword.toList ++ ' ' :: cs) := by
    simp [htext]
  have hnext : Scope.next (.code 0) ' ' = .code 0 := by decide
  rw [hparts]
  constructor
  · rw [Scope.after_append, hafter, Scope.after_cons, hnext, Scope.after_append, hkeywordAfter,
      Scope.after_cons, hnext]
  · rw [SqlToken.ofChars_append hblank, SqlToken.ofChars_append hblank, hafter, hnext, hkeyword,
      hkeywordAfter, hnext, cut_append (congrArg Prod.snd hcut), hcut, List.singleton_append,
      cut_sign, cut_word hconnective, cut_sign]

end Lexeme

/-- Opaque texts with connectives in between divide into just these. -/
theorem Alternating.lexemes?_run {ls : List Lexeme} (h : Alternating ls) :
    lexemes? (Lexeme.run ls) = some ls := by
  have hatom {s : String} (hs : Opaque s) : Lexeme.atomOf s.toList = [.atom s] := by
    have hne : s.toList ≠ [] := fun hnil => hs.cut.2.1 (String.toList_eq_nil_iff.1 hnil)
    rw [Lexeme.atomOf, if_neg hne, String.ofList_toList]
  have hall : Scope.after (.code 0) (Lexeme.run ls).toList = .code 0 ∧
      Lexeme.assemble (Lexeme.cut (SqlToken.ofChars (.code 0) (Lexeme.run ls).toList)).1
        (Lexeme.cut (SqlToken.ofChars (.code 0) (Lexeme.run ls).toList)).2 = ls := by
    induction h with
    | @atom s hs =>
      obtain ⟨hafter, -, hcut⟩ := hs.cut
      have hrun : Lexeme.run [.atom s] = s := String.append_empty
      rw [hrun, hcut]
      exact ⟨hafter, hatom hs⟩
    | @cons s hs connective ls _ ih =>
      obtain ⟨hafter, hassemble⟩ := ih
      have hrun : (Lexeme.run (.atom s :: .word connective :: ls)).toList =
          s.toList ++ (Lexeme.word connective).text.toList ++ (Lexeme.run ls).toList := by
        rw [Lexeme.run, Lexeme.run, String.toList_append, String.toList_append, List.append_assoc]
        rfl
      obtain ⟨hscope, hcut⟩ := Lexeme.cut_opaque hs connective (Lexeme.run ls).toList
      have hbefore : (Lexeme.dropBlank (s.toList ++ [' ']).reverse).reverse = s.toList := by
        rw [List.reverse_append]
        exact List.reverse_reverse _
      rw [hrun, hscope, hcut, Lexeme.assemble, hbefore, hatom hs, Lexeme.dropBlank, hassemble]
      exact ⟨hafter, rfl⟩
  rw [lexemes?, if_pos hall.1, hall.2]

example : lexemes? "(a = 1 or b = 2) and c = '(x) OR y' OR t.and = 3" =
    some [.atom "(a = 1 or b = 2)", .word .and, .atom "c = '(x) OR y'", .word .or,
      .atom "t.and = 3"] := by
  decide +kernel

/-! ## Reading without parentheses -/

section Reads

variable {V : String → Bool}

/-- What was read under AND before an operand may be read as part of it. -/
theorem readFrom_next_and (outer : List Level) (l : Level) (b c : Bool) (ls : List Lexeme) :
    readFrom V outer (l.next b .and) (some c) ls = readFrom V outer l (some (b && c)) ls := by
  have hclose : (l.next b .and).close c = l.close (b && c) := by
    simp [Level.close, Level.next, Bool.and_assoc]
  have hnext (connective : Connective) :
      (l.next b .and).next c connective = l.next (b && c) connective := by
    cases connective with
    | and => simp [Level.next, Bool.and_assoc]
    | or =>
      show ({ anyRun := (l.next b .and).close c } : Level) = _
      rw [hclose]
      rfl
  cases ls with
  | nil =>
    cases outer with
    | nil => rw [readFrom, readFrom, hclose]
    | cons m outer => simp [readFrom]
  | cons lexeme ls =>
    cases lexeme with
    | word connective => rw [readFrom, readFrom, hnext]
    | closing =>
      cases outer with
      | nil => simp [readFrom]
      | cons m outer => rw [readFrom, readFrom, hclose]
    | atom _ | opening => simp [readFrom]

/-- Operands under AND are read as one operand, also without parentheses. -/
theorem reads_separated_and {spelled : List (List Lexeme)} {b : Bool} {bs : List Bool}
    (h : List.Forall₂ (Reads V) spelled (b :: bs)) :
    Reads V (Lexeme.separated .and spelled) (Connective.and.holds (b :: bs)) := by
  induction bs generalizing spelled b with
  | nil =>
    cases h with
    | cons hhead htail =>
      cases htail
      simpa [Lexeme.separated, Connective.holds] using hhead
  | cons b' bs ih =>
    cases h with
    | @cons ls _ rest _ hhead htail =>
      cases htail with
      | @cons ls' _ rest _ hnext htail =>
        intro outer l tail
        have hholds : Connective.and.holds (b :: b' :: bs) =
            (b && Connective.and.holds (b' :: bs)) := by
          simp [Connective.holds]
        rw [Lexeme.separated, List.append_assoc, hhead, List.cons_append, readFrom,
          ih (.cons hnext htail), readFrom_next_and, hholds]

/-- Operands at the top are read as their connective has them, also without parentheses. -/
theorem read_separated (connective : Connective) {spelled : List (List Lexeme)} {bs : List Bool}
    (h : List.Forall₂ (Reads V) spelled bs) :
    read V (Lexeme.separated connective spelled) = connective.verdict bs := by
  cases h with
  | nil => rfl
  | @cons ls b rest bs hhead htail =>
    obtain ⟨m, c, hread, hclose⟩ := exists_readFrom_separated connective hhead htail [] {} []
    rw [List.append_nil] at hread
    rw [read, hread, readFrom, hclose, Connective.verdict_of_ne_nil (List.cons_ne_nil b bs)]
    cases connective <;> simp [Level.close, Connective.holds]

end Reads

end SqlBuilder
