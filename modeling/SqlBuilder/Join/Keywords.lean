import SqlBuilder.Text.Blank

/-!
# The keywords before a join

A join string may begin with the keywords of a join: any run of words that say what kind of join
it is, then the word JOIN, each followed by at least one blank. Case does not count, and neither
do blanks before the first word.

Letters are compared by their simple case folding. Beyond ASCII only two characters fold to an
ASCII letter, the long s and the sign of the kelvin.
-/

namespace SqlBuilder.Join

open Text

/-- The simple case folding of a character, as far as it leads to a letter of ASCII. -/
def fold (c : Char) : Char :=
  if c = '\u017f' then 's' else if c = '\u212a' then 'k' else c.toLower

/-- The text behind a word given in small letters. -/
def dropWord? : (word : List Char) → List Char → Option (List Char)
  | [], cs => some cs
  | w :: ws, c :: cs => if fold c = w then dropWord? ws cs else none
  | _ :: _, [] => none

/-- The text behind a word and the blanks that have to follow it. -/
def dropKeyword? (word cs : List Char) : Option (List Char) :=
  match dropWord? word cs with
  | some (c :: rest) => if isBlank c then some (skipBlanks rest) else none
  | _ => none

/-- The words that say what kind of join it is. -/
def kindWords : List (List Char) :=
  [['n', 'a', 't', 'u', 'r', 'a', 'l'], ['i', 'n', 'n', 'e', 'r'], ['c', 'r', 'o', 's', 's'],
    ['l', 'e', 'f', 't'], ['r', 'i', 'g', 'h', 't'], ['f', 'u', 'l', 'l'],
    ['o', 'u', 't', 'e', 'r']]

def joinWord : List Char := ['j', 'o', 'i', 'n']

theorem length_le_of_dropWord? {word cs rest : List Char} (h : dropWord? word cs = some rest) :
    rest.length ≤ cs.length := by
  induction word generalizing cs with
  | nil =>
    obtain rfl := Option.some.inj h
    exact Nat.le_refl _
  | cons w ws ih =>
    cases cs with
    | nil => simp [dropWord?] at h
    | cons c cs =>
      unfold dropWord? at h
      split at h
      · exact Nat.le_succ_of_le (ih h)
      · simp at h

theorem length_lt_of_dropKeyword? {word cs rest : List Char}
    (h : dropKeyword? word cs = some rest) : rest.length < cs.length := by
  unfold dropKeyword? at h
  split at h
  · rename_i c tail hword
    split at h
    · obtain rfl := Option.some.inj h
      have := length_le_of_dropWord? hword
      have := skipBlanks_length_le tail
      simp only [List.length_cons] at *
      omega
    · simp at h
  · simp at h

/-- The text behind the first of the words that fits. -/
def dropAny? (cs : List Char) : List (List Char) → Option (List Char)
  | [] => none
  | word :: words => (dropKeyword? word cs).or (dropAny? cs words)

theorem length_lt_of_dropAny? {words : List (List Char)} {cs rest : List Char}
    (h : dropAny? cs words = some rest) : rest.length < cs.length := by
  induction words with
  | nil => simp [dropAny?] at h
  | cons word words ih =>
    rcases Option.or_eq_some_iff.1 h with h | ⟨-, h⟩
    · exact length_lt_of_dropKeyword? h
    · exact ih h

/-- The text behind a run of words for the kind and the word JOIN. -/
def dropRun? (cs : List Char) : Option (List Char) :=
  match _h : dropAny? cs kindWords with
  | some rest => dropRun? rest
  | none => dropKeyword? joinWord cs
termination_by cs.length
decreasing_by exact length_lt_of_dropAny? _h

/-- The text behind the keywords of a join, if it begins with them. -/
def dropKeywords? (sql : String) : Option String :=
  (dropRun? (skipBlanks sql.toList)).map String.ofList

end SqlBuilder.Join
