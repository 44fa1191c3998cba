/-!
# Blank characters

One class of blank characters, the Unicode property White_Space, serves every place where blanks
are skipped, trimmed or asked about: the words that choose a connective, the run of keywords
before a join, and the spaces a timestamp may hold.
-/

namespace SqlBuilder.Text

/-- A character with the Unicode property White_Space. -/
def isBlank (c : Char) : Bool :=
  let n := c.toNat
  (9 ≤ n && n ≤ 13) || n = 0x20 || n = 0x85 || n = 0xA0 || n = 0x1680 ||
    (0x2000 ≤ n && n ≤ 0x200A) || n = 0x2028 || n = 0x2029 || n = 0x202F || n = 0x205F ||
    n = 0x3000

/-- What holds of the blanks one by one holds of every blank. -/
theorem forall_of_isBlank {P : Char → Prop}
    (h : ∀ n ∈ [9, 10, 11, 12, 13, 0x20, 0x85, 0xA0, 0x1680, 0x2000, 0x2001, 0x2002, 0x2003,
      0x2004, 0x2005, 0x2006, 0x2007, 0x2008, 0x2009, 0x200A, 0x2028, 0x2029, 0x202F, 0x205F,
      0x3000], P (Char.ofNat n)) {c : Char} (hc : isBlank c = true) : P c := by
  rw [← Char.ofNat_toNat c]
  refine h _ ?_
  simp [isBlank] at hc ⊢
  omega

theorem not_isBlank_of_isDigit {c : Char} (h : c.isDigit = true) : isBlank c = false := by
  simp only [Char.isDigit, Bool.and_eq_true, decide_eq_true_eq] at h
  have hlow : 48 ≤ c.toNat := UInt32.le_iff_toNat_le.1 h.1
  have hhigh : c.toNat ≤ 57 := UInt32.le_iff_toNat_le.1 h.2
  simp only [isBlank, Bool.or_eq_false_iff, Bool.and_eq_false_iff, decide_eq_false_iff_not]
  omega

/-- Every character of the text is blank; the empty text counts. -/
def isBlankText (s : String) : Bool := s.toList.all isBlank

/-- The text without the blanks at its start. -/
def skipBlanks (cs : List Char) : List Char := cs.dropWhile isBlank

/-- The text without the blanks at either end. -/
def trim (s : String) : String :=
  .ofList (skipBlanks (skipBlanks s.toList).reverse).reverse

theorem skipBlanks_length_le (cs : List Char) : (skipBlanks cs).length ≤ cs.length :=
  (List.dropWhile_suffix isBlank).length_le

end SqlBuilder.Text
