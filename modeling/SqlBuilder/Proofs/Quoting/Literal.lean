import SqlBuilder.Literal

/-!
# Quoted text is one literal

`Literal.read?` reads a string literal the way MySQL does: a backslash and the character behind it
stand for one character, a doubled quote stands for a quote, and any other quote ends the literal.
What `Literal.quote` writes is read back to the last character (`read?_quote_append`), so nothing in
a value can end its literal early, and nothing behind the literal is drawn into it, unless it begins
with a quote.

The argument is about one character: whatever comes after it, the reader takes the escaped
character as a whole and goes on with the rest (`content?_escape_append`).
-/

namespace SqlBuilder

namespace Literal

/-! ## Reading a literal -/

/-- What a character behind a backslash stands for. -/
def unescape : Char → Char
  | '0' => '\x00'
  | 'n' => '\n'
  | 'r' => '\r'
  | 'b' => '\x08'
  | 't' => '\t'
  | 'Z' => '\x1a'
  | c => c

/-- The content of a literal whose opening quote has been read, and what comes after the literal. -/
def content? : List Char → Option (List Char × List Char)
  | [] => none
  | '\\' :: c :: rest => do
    let (cs, rest) ← content? rest
    return (unescape c :: cs, rest)
  | ['\\'] => none
  | '\x27' :: '\x27' :: rest => do
    let (cs, rest) ← content? rest
    return ('\x27' :: cs, rest)
  | '\x27' :: rest => some ([], rest)
  | c :: rest => do
    let (cs, rest) ← content? rest
    return (c :: cs, rest)

/-- Read a string literal: its content and what comes after it. -/
def read? (s : String) : Option (String × String) :=
  match s.toList with
  | '\x27' :: cs => (content? cs).map fun (cs, rest) => (.ofList cs, .ofList rest)
  | _ => none

theorem content?_cons {c : Char} (hbackslash : c ≠ '\\') (hquote : c ≠ '\x27') (rest : List Char) :
    content? (c :: rest) = (content? rest).map fun (cs, rest) => (c :: cs, rest) := by
  rw [content?.eq_def, Option.map_eq_bind]
  split
  case h_6 heq => cases heq; rfl
  all_goals simp_all

/-! ## Reading what was written -/

/-- The reader takes an escaped character as a whole, whatever comes after it. -/
theorem content?_escape_append (c : Char) (rest : List Char) :
    content? (escape c ++ rest) = (content? rest).map fun (cs, rest) => (c :: cs, rest) := by
  unfold escape
  split
  case h_10 hbackslash hquote _ => exact content?_cons hbackslash hquote rest
  all_goals
    rw [Option.map_eq_bind]
    rfl

theorem content?_escaped_append (cs : List Char) {rest : List Char}
    (h : rest.head? ≠ some '\x27') :
    content? (cs.flatMap escape ++ '\x27' :: rest) = some (cs, rest) := by
  induction cs with
  | nil =>
    cases rest with
    | nil => rfl
    | cons c rest =>
      have hc : c ≠ '\x27' := fun hc => h (hc ▸ rfl)
      simp [content?, hc]
  | cons c cs ih => rw [List.flatMap_cons, List.append_assoc, content?_escape_append, ih]; rfl

theorem read?_quote_append (s : String) {rest : String} (h : rest.toList.head? ≠ some '\x27') :
    read? (quote s ++ rest) = some (s, rest) := by
  simp [read?, quote, quoteChars, content?_escaped_append _ h]

theorem read?_quote (s : String) : read? (quote s) = some (s, "") := by
  simpa using @read?_quote_append s "" (by simp)

theorem quote_injective : Function.Injective quote := fun s t h => by
  have hread : some (s, "") = some (t, "") := by rw [← read?_quote s, h, read?_quote t]
  exact congrArg Prod.fst (Option.some.inj hread)

end Literal

/-! ## Values -/

/-- The text between the quotes of a literal, for the values that are quoted. -/
def Value.quoted? : Value → Option String
  | text s => some s
  | time t => some t.sqlText
  | _ => none

theorem Value.literal_of_quoted {v : Value} {s : String} (h : v.quoted? = some s) :
    v.literal = Literal.quote s := by
  cases v <;> cases h <;> rfl

namespace Literal

/-- A quoted text is one literal with the text as its content. It ends where the quotation ends, so
no two texts are quoted alike. The same holds of every value that is written between quotes. -/
theorem quoted_reads_back :
    (∀ s rest : String, rest.toList.head? ≠ some '\x27' →
      read? (quote s ++ rest) = some (s, rest)) ∧
    Function.Injective quote ∧
    (∀ (v : Value) (s rest : String), v.quoted? = some s → rest.toList.head? ≠ some '\x27' →
      read? (v.literal ++ rest) = some (s, rest)) ∧
    ∀ (v w : Value) (s t : String), v.quoted? = some s → w.quoted? = some t →
      (v.literal = w.literal ↔ s = t) := by
  refine ⟨fun s _ h => read?_quote_append s h, quote_injective, ?_, ?_⟩
  · intro v s rest hv h
    rw [Value.literal_of_quoted hv]
    exact read?_quote_append s h
  · intro v w s t hv hw
    rw [Value.literal_of_quoted hv, Value.literal_of_quoted hw]
    exact quote_injective.eq_iff

/-- A text made to break out of its literal, and values between others. -/
theorem quoted_reads_back_breakout :
    (", 1" : String).toList.head? ≠ some '\x27' ∧
    read? (quote "\\\x27 OR \x27\x27=\x27" ++ ", 1") = some ("\\\x27 OR \x27\x27=\x27", ", 1") ∧
    (Value.text "a\n\x1a").quoted? = some "a\n\x1a" ∧
    read? ((Value.text "a\n\x1a").literal ++ ", 1") = some ("a\n\x1a", ", 1") ∧
    ((Value.text "a\n\x1a").literal = (Value.text "").literal ↔ "a\n\x1a" = "") :=
  have hrest : (", 1" : String).toList.head? ≠ some '\x27' := by decide
  ⟨hrest, quoted_reads_back.1 _ _ hrest, rfl, quoted_reads_back.2.2.1 _ _ _ rfl hrest,
    quoted_reads_back.2.2.2 _ _ _ _ rfl rfl⟩

end Literal
end SqlBuilder
