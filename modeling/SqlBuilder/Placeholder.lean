import SqlBuilder.Text.Word

/-!
# Placeholders in SQL text

A placeholder is a name of word characters, possibly empty, between two opening and two closing
braces. It stands for a value that is stored under the placeholder's own text.

**Pieces.** `Placeholder.pieces` reads a text from left to right as single characters and
placeholders. Wherever a placeholder can begin, it does, and what lies inside it is passed over;
since no brace is a word character, there is at most one placeholder that begins at a given
place. The reader keeps count of the characters still to be passed over, so it consumes one
character at every step.

Main statements: `text_pieces` says that the pieces of a text are the text, cut up, and
`pieces_append` that a text can be cut apart at any character no placeholder can hold.
-/

namespace SqlBuilder.Placeholder

open Text

def openBraces : List Char := ['{', '{']

def closeBraces : List Char := ['}', '}']

/-- A name between braces. -/
def token (name : List Char) : List Char := openBraces ++ name ++ closeBraces

/-- The name of the placeholder that begins the text. -/
def nameAt? : List Char → Option (List Char)
  | '{' :: '{' :: cs =>
    match cs.dropWhile isWord with
    | '}' :: '}' :: _ => some (cs.takeWhile isWord)
    | _ => none
  | _ => none

/-- A part of a text: one character, or a placeholder by its name. -/
inductive Piece where
  | char (c : Char)
  | slot (name : List Char)
deriving DecidableEq, Repr

/-- The text of a piece. -/
def Piece.text : Piece → List Char
  | char c => [c]
  | slot name => token name

/-- The pieces of a text whose first `skip` characters are passed over. -/
def pieces : (skip : Nat) → List Char → List Piece
  | _, [] => []
  | skip + 1, _ :: cs => pieces skip cs
  | 0, c :: cs =>
    match nameAt? (c :: cs) with
    | some name => .slot name :: pieces (name.length + 3) cs
    | none => .char c :: pieces 0 cs

theorem pieces_cons (c : Char) (cs : List Char) :
    pieces 0 (c :: cs) = match nameAt? (c :: cs) with
      | some name => .slot name :: pieces (name.length + 3) cs
      | none => .char c :: pieces 0 cs :=
  rfl

/-! ## Nothing is lost -/

theorem nameAt?_eq_some {cs name : List Char} (h : nameAt? cs = some name) :
    (∃ rest, cs = token name ++ rest) ∧ ∀ c ∈ name, isWord c = true := by
  unfold nameAt? at h
  split at h
  · rename_i cs
    split at h
    · rename_i rest hrest
      obtain rfl := Option.some.inj h
      refine ⟨⟨rest, ?_⟩, fun c hc => List.all_eq_true.1 List.all_takeWhile c hc⟩
      have hcs := List.takeWhile_append_dropWhile (p := isWord) (l := cs)
      rw [hrest] at hcs
      simp [token, openBraces, closeBraces, hcs]
    · exact absurd h (by simp)
  · exact absurd h (by simp)

theorem nameAt?_token {name rest : List Char} (h : ∀ c ∈ name, isWord c = true) :
    nameAt? (token name ++ rest) = some name := by
  have hbrace : isWord '}' = false := isWord_brace.2
  have hdrop : (name ++ '}' :: '}' :: rest).dropWhile isWord = '}' :: '}' :: rest := by
    rw [List.dropWhile_append_of_pos h, List.dropWhile_cons_of_neg (by simp [hbrace])]
  have htake : (name ++ '}' :: '}' :: rest).takeWhile isWord = name := by
    rw [List.takeWhile_append_of_pos h, List.takeWhile_cons_of_neg (by simp [hbrace]),
      List.append_nil]
  simp [token, openBraces, closeBraces, nameAt?, hdrop, htake]

theorem length_token (name : List Char) : (token name).length = name.length + 4 := by
  simp [token, openBraces, closeBraces]

/-- The pieces of a text, put together, are the text. -/
theorem text_pieces (skip : Nat) (cs : List Char) :
    (pieces skip cs).flatMap Piece.text = cs.drop skip := by
  induction cs generalizing skip with
  | nil => simp [pieces]
  | cons c cs ih =>
    cases skip with
    | succ skip => simp [pieces, ih]
    | zero =>
      unfold pieces
      split
      · rename_i name h
        obtain ⟨⟨rest, hrest⟩, -⟩ := nameAt?_eq_some h
        simp only [List.flatMap_cons, ih, Piece.text]
        have hlen := congrArg (List.drop (name.length + 4)) hrest
        rw [List.drop_succ_cons, ← length_token, List.drop_left' rfl] at hlen
        rw [List.drop_zero, hrest, ← hlen]
      · simp [ih, Piece.text]

theorem nameAt?_eq_some_iff {cs name : List Char} :
    nameAt? cs = some name ↔
      (∃ rest, cs = token name ++ rest) ∧ ∀ c ∈ name, isWord c = true :=
  ⟨nameAt?_eq_some, fun ⟨⟨_, h⟩, hname⟩ => h ▸ nameAt?_token hname⟩

/-! ## Cutting a text apart -/

/-- A character that no placeholder can hold. -/
def Breaks (c : Char) : Prop := isWord c = false ∧ c ≠ '{' ∧ c ≠ '}'

instance (c : Char) : Decidable (Breaks c) := inferInstanceAs (Decidable (_ ∧ _))

theorem not_mem_token {c : Char} (hc : Breaks c) {name : List Char}
    (h : ∀ c ∈ name, isWord c = true) : c ∉ token name := by
  obtain ⟨hword, hopen, hclose⟩ := hc
  have hname : c ∉ name := fun hmem => by simp [h c hmem] at hword
  simp [token, openBraces, closeBraces, hname, hopen, hclose]

theorem nameAt?_append {c : Char} (hc : Breaks c) (cs rest : List Char) :
    nameAt? (cs ++ c :: rest) = nameAt? cs := by
  apply Option.ext
  intro name
  rw [nameAt?_eq_some_iff, nameAt?_eq_some_iff]
  refine and_congr_left fun hname => ⟨?_, ?_⟩
  · rintro ⟨tail, h⟩
    rcases List.append_eq_append_iff.1 h with ⟨mid, htoken, hrest⟩ | ⟨mid, hcs, -⟩
    · cases mid with
      | nil => exact ⟨[], by simpa using htoken.symm⟩
      | cons d mid =>
        obtain ⟨rfl, -⟩ := List.cons.inj hrest
        exact absurd (htoken ▸ by simp) (not_mem_token hc hname)
    · exact ⟨mid, hcs⟩
  · rintro ⟨tail, rfl⟩
    exact ⟨tail ++ c :: rest, by simp⟩

theorem pieces_append {c : Char} (hc : Breaks c) (rest : List Char) {cs : List Char} {skip : Nat}
    (h : skip ≤ cs.length) :
    pieces skip (cs ++ c :: rest) = pieces skip cs ++ .char c :: pieces 0 rest := by
  induction cs generalizing skip with
  | nil =>
    obtain rfl : skip = 0 := by simpa using h
    have hnone : nameAt? (c :: rest) = none := nameAt?_append hc [] rest
    simp [pieces, hnone]
  | cons d cs ih =>
    cases skip with
    | succ skip => simp [pieces, ih (by simpa using h)]
    | zero =>
      have hname := nameAt?_append hc (d :: cs) rest
      rw [List.cons_append] at hname
      rw [List.cons_append, pieces_cons, pieces_cons, hname]
      split
      · rename_i name hsome
        obtain ⟨⟨tail, htail⟩, -⟩ := nameAt?_eq_some hsome
        have hlen := congrArg List.length htail
        simp only [List.length_cons, List.length_append, length_token] at hlen
        rw [ih (by omega), List.cons_append]
      · rw [ih (Nat.zero_le _), List.cons_append]

/-! ## Templates -/

/-- A text as the list of its pieces. -/
abbrev Template := List Piece

/-- Cut a text into pieces. -/
def template (sql : String) : Template := pieces 0 sql.toList

/-- The placeholders of a template from left to right, each by its full text. -/
def tokens (t : Template) : List String :=
  t.filterMap fun
    | .char _ => none
    | .slot name => some (.ofList (token name))

/-- The text of a template with every placeholder replaced. -/
def fill (f : String → String) (t : Template) : String :=
  .ofList (t.flatMap fun
    | .char c => [c]
    | .slot name => (f (.ofList (token name))).toList)

theorem fill_nil (f : String → String) : fill f [] = "" := rfl

theorem fill_char (f : String → String) (c : Char) (t : Template) :
    fill f (.char c :: t) = String.singleton c ++ fill f t := by
  apply String.toList_inj.1
  simp [fill]

theorem fill_slot (f : String → String) (name : List Char) (t : Template) :
    fill f (.slot name :: t) = f (.ofList (token name)) ++ fill f t := by
  apply String.toList_inj.1
  simp [fill]

theorem fill_id_pieces (skip : Nat) (cs : List Char) :
    fill id (pieces skip cs) = .ofList (cs.drop skip) := by
  have h : fill id (pieces skip cs) = .ofList ((pieces skip cs).flatMap Piece.text) := by
    unfold fill
    congr 2
    funext p
    cases p <;> simp [Piece.text]
  rw [h, text_pieces]

theorem fill_id (sql : String) : fill id (template sql) = sql := by
  rw [template, fill_id_pieces, List.drop_zero, String.ofList_toList]

@[simp] theorem tokens_append (t u : Template) : tokens (t ++ u) = tokens t ++ tokens u :=
  List.filterMap_append

/-- Two texts with a breaking character between them are cut one after the other. -/
theorem template_append {c : Char} (hc : Breaks c) (a b : String) :
    template (a ++ String.singleton c ++ b) = template a ++ .char c :: template b := by
  simp only [template, String.toList_append, String.toList_singleton, List.append_assoc,
    List.singleton_append]
  exact pieces_append hc _ (Nat.zero_le _)

/-- The placeholders of two texts with a breaking character between them. -/
theorem tokens_template_append {c : Char} (hc : Breaks c) (a b : String) :
    tokens (template (a ++ String.singleton c ++ b)) =
      tokens (template a) ++ tokens (template b) := by
  rw [template_append hc, tokens_append]
  rfl

end SqlBuilder.Placeholder
