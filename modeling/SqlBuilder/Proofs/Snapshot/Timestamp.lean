import Mathlib.Algebra.Group.Nat.Defs
import Mathlib.Control.Basic
import Mathlib.Data.List.TakeWhile
import SqlBuilder.Timestamp.Reader

/-!
# Timestamps are read back

The exact text of a timestamp is one of the many texts that the reader takes, and what the reader
makes of it is the timestamp that was written (`ofText?_text`).

Each part of the text is read by a lemma of its own, which is about a part followed by any rest
that the reader cannot mistake for more of the same number. What then remains is arithmetic: the
date was found from a day number, so it exists and leads back to it, and the years of all
timestamps are among those that the reader admits (`year_bounds`).
-/

namespace SqlBuilder

/-! ## Dates of timestamps -/

namespace Date

theorem month_le (n : Int) : (ofDayNumber n).month ≤ 12 := by
  have hd : ((n + epochShift) % cycleDays).toNat < 146097 := by unfold cycleDays; omega
  have hend := lt_yearStart_succ hd
  simp only [ofDayNumber]
  split <;> omega

theorem day_le (n : Int) : (ofDayNumber n).day ≤ 31 := by
  simp only [ofDayNumber, monthStart]
  omega

theorem yearStart_mono {y y' : Nat} (h : y ≤ y') : yearStart y ≤ yearStart y' := by
  have hleap : y / 4 ≤ y' / 4 := Nat.div_le_div_right h
  have hcentury : y' / 100 ≤ y / 100 + (y' - y) := by omega
  unfold yearStart
  omega

/-- The days of the years from -262143 to 262142 have dates in these years. The first of them is
in January, when the year that began in March is one behind. -/
theorem year_bounds {n : Int} (hlow : -96465292 ≤ n) (hhigh : n < 95026237) :
    -262143 ≤ (ofDayNumber n).year ∧ (ofDayNumber n).year ≤ 262142 := by
  simp only [ofDayNumber]
  generalize hz : n + epochShift = z
  have hzlow : -95745824 ≤ z := by unfold epochShift at hz; omega
  have hzhigh : z < 95745705 := by unfold epochShift at hz; omega
  have hd : (z % cycleDays).toNat < 146097 := by unfold cycleDays; omega
  have hdiv : 146097 * (z / 146097) + ((z % cycleDays).toNat : Int) = z := by
    unfold cycleDays; omega
  unfold cycleDays at hd hdiv ⊢
  generalize (z % 146097).toNat = d at hd hdiv ⊢
  generalize z / 146097 = cycle at hdiv ⊢
  have hy := yearOfCycle_lt hd
  have hstart := yearStart_yearOfCycle_le d
  have hend := lt_yearStart_succ hd
  generalize yearOfCycle d = y at hy hstart hend ⊢
  -- only the first and the last cycle are cut off
  have hcycle : -656 ≤ cycle ∧ cycle ≤ 655 := by omega
  have hfirst : cycle = -656 → 256 < y ∨ y = 256 ∧ 306 ≤ d - yearStart y := by
    intro h
    have hlater : 256 ≤ y := Nat.le_of_not_lt fun hlt => by
      have hle := yearStart_mono (Nat.le_of_lt_succ hlt : y ≤ 255)
      rw [show yearStart 255 = 93136 from rfl] at hle
      omega
    rcases Nat.lt_or_eq_of_le hlater with hlt | rfl
    · exact .inl hlt
    · rw [show yearStart 256 = 93502 from rfl]
      exact .inr ⟨rfl, by omega⟩
  have hlast : cycle = 655 → y < 142 ∨ y = 142 ∧ d - yearStart y < 306 := by
    intro h
    have hearlier : y ≤ 142 := Nat.le_of_not_lt fun hlt => by
      have hle := yearStart_mono (y := 143) hlt
      rw [show yearStart 143 = 52229 from rfl] at hle
      omega
    rcases Nat.lt_or_eq_of_le hearlier with hlt | rfl
    · exact .inl hlt
    · rw [show yearStart 142 = 51864 from rfl]
      exact .inr ⟨rfl, by omega⟩
  split <;> omega

end Date

namespace Timestamp

/-! ## Digits -/

theorem isDigit_of_mem_padded {width n : Nat} {c : Char} (h : c ∈ padded width n) :
    c.isDigit = true := by
  rcases List.mem_append.1 h with h | h
  · rw [List.eq_of_mem_replicate h]
    decide
  · exact Nat.isDigit_of_mem_toDigits (by decide) (by decide) h

theorem padded_ne_nil (width n : Nat) : padded width n ≠ [] := by
  simp [padded, Nat.toDigits_ne_nil]

theorem ofDigitChars_padded (width n : Nat) : Nat.ofDigitChars 10 (padded width n) 0 = n := by
  rw [padded, Nat.ofDigitChars_append, Nat.ofDigitChars_replicate_zero, Nat.mul_zero,
    Nat.ofDigitChars_ten_toDigits]

theorem length_padded {width n : Nat} (hwidth : 0 < width) (hn : n < 10 ^ width) :
    (padded width n).length = width := by
  have hlen := (Nat.length_toDigits_le_iff (by decide) hwidth).2 hn
  rw [padded, List.length_append, List.length_replicate]
  omega

/-! ## Numbers -/

/-- The text does not go on with a digit. -/
def Ends (rest : List Char) : Prop := rest.takeWhile Char.isDigit = []

theorem ends_cons {c : Char} (hc : c.isDigit = false) (cs : List Char) : Ends (c :: cs) := by
  simp [Ends, hc]

/-- Digits are read as a number up to the first character that is none, or as many as may be
read. -/
theorem number?_append {most : Nat} {ds rest : List Char} (hne : ds ≠ [])
    (hds : ∀ c ∈ ds, c.isDigit = true) (hlen : ds.length ≤ most)
    (hrest : ds.length = most ∨ Ends rest) :
    number? most (ds ++ rest) = some (Nat.ofDigitChars 10 ds 0, rest) := by
  have hmore : (rest.take (most - ds.length)).takeWhile Char.isDigit = [] := by
    rcases hrest with hrest | hrest
    · rw [hrest, Nat.sub_self, List.take_zero, List.takeWhile_nil]
    · cases rest with
      | nil => rw [List.take_nil, List.takeWhile_nil]
      | cons c cs =>
        have hc : c.isDigit = false := by
          cases h : c.isDigit with
          | false => rfl
          | true => simp [Ends, h] at hrest
        cases most - ds.length with
        | zero => rw [List.take_zero, List.takeWhile_nil]
        | succ k => exact ends_cons hc _
  have htake : ((ds ++ rest).take most).takeWhile Char.isDigit = ds := by
    rw [List.take_append, List.take_of_length_le hlen, List.takeWhile_append_of_pos hds, hmore,
      List.append_nil]
  simp only [number?, htake, hne, if_false, List.drop_left]

theorem number?_padded {width most n : Nat} {rest : List Char}
    (hlen : (padded width n).length ≤ most)
    (hrest : (padded width n).length = most ∨ Ends rest) :
    number? most (padded width n ++ rest) = some (n, rest) := by
  rw [number?_append (padded_ne_nil width n) (fun _ => isDigit_of_mem_padded) hlen hrest,
    ofDigitChars_padded]

/-! ## Parts of the text -/

/-- Nothing is skipped before a number. -/
theorem skipBlanks_padded (width n : Nat) (rest : List Char) :
    Text.skipBlanks (padded width n ++ rest) = padded width n ++ rest := by
  cases h : padded width n with
  | nil => exact absurd h (padded_ne_nil width n)
  | cons c cs =>
    have hmem : c ∈ padded width n := h ▸ List.mem_cons_self
    have hc := isDigit_of_mem_padded hmem
    simp [Text.skipBlanks, Text.not_isBlank_of_isDigit hc]

theorem twoDigits?_padded {n : Nat} (hn : n < 100) (rest : List Char) :
    twoDigits? (padded 2 n ++ rest) = some (n, rest) := by
  have hlen : (padded 2 n).length = 2 := length_padded (by decide) hn
  rw [twoDigits?, skipBlanks_padded, number?_padded hlen.le (.inl hlen)]

theorem separated?_padded {c : Char} (hc : Text.isBlank c = false) {n : Nat} (hn : n < 100)
    (rest : List Char) : separated? c (c :: (padded 2 n ++ rest)) = some (n, rest) := by
  have hskip : Text.skipBlanks (c :: (padded 2 n ++ rest)) = c :: (padded 2 n ++ rest) := by
    simp [Text.skipBlanks, hc]
  simp only [separated?, hskip, expect?, if_true, Option.bind_eq_bind, Option.bind_some]
  exact twoDigits?_padded hn rest

/-- A year is read whether or not it carries a sign. -/
theorem year?_yearText (y : Int) {rest : List Char} (hrest : Ends rest) :
    year? (yearText y ++ rest) = some (y, rest) := by
  unfold yearText
  split
  case isTrue h =>
    obtain ⟨c, cs, hcs⟩ := List.exists_cons_of_ne_nil (padded_ne_nil 4 y.toNat)
    have hmem : c ∈ padded 4 y.toNat := hcs ▸ List.mem_cons_self
    have hc := isDigit_of_mem_padded hmem
    have hlen : (padded 4 y.toNat).length = 4 := length_padded (by decide) (by omega)
    have hread : number? 4 (padded 4 y.toNat ++ rest) = some (y.toNat, rest) :=
      number?_padded hlen.le (.inl hlen)
    rw [year?, skipBlanks_padded]
    rw [hcs] at hread ⊢
    -- a digit is neither sign, so the year is read without one
    have hplain : c ≠ '-' ∧ c ≠ '+' := by
      constructor <;> rintro rfl <;> simp at hc
    grind
  case isFalse h =>
    have hread (most : Nat) (hmost : (padded 4 y.natAbs).length ≤ most) :
        number? most (padded 4 y.natAbs ++ rest) = some (y.natAbs, rest) :=
      number?_padded hmost (.inr hrest)
    have hall := hread (padded 4 y.natAbs ++ rest).length (by simp)
    split
    case isTrue hneg =>
      have hskip : Text.skipBlanks ('-' :: (padded 4 y.natAbs ++ rest)) =
          '-' :: (padded 4 y.natAbs ++ rest) := rfl
      simp only [List.cons_append, year?, hskip, hall, Option.map_some]
      congr 2
      omega
    case isFalse hpos =>
      have hskip : Text.skipBlanks ('+' :: (padded 4 y.natAbs ++ rest)) =
          '+' :: (padded 4 y.natAbs ++ rest) := rfl
      simp only [List.cons_append, year?, hskip, hall, Option.map_some]
      congr 2
      omega

theorem scaled_eq (zeros n : Nat) : scaled zeros n = n * 10 ^ zeros := by
  induction zeros generalizing n with
  | zero => simp [scaled]
  | succ zeros ih => rw [scaled, ih, Nat.pow_succ', Nat.mul_assoc]

theorem fraction?_point {width n : Nat} {rest : List Char} (hpos : 0 < width) (hwidth : width ≤ 9)
    (hn : n < 10 ^ width) (hrest : Ends rest) :
    fraction? ('.' :: (padded width n ++ rest)) = some (n * 10 ^ (9 - width), rest) := by
  have hlen := length_padded hpos hn
  have hread : number? 9 (padded width n ++ rest) = some (n, rest) :=
    number?_padded (by omega) (.inr hrest)
  have hdrop : rest.dropWhile Char.isDigit = rest := by
    have happend := List.takeWhile_append_dropWhile (p := Char.isDigit) (l := rest)
    rwa [hrest, List.nil_append] at happend
  simp only [fraction?, hread, Option.bind_eq_bind, Option.bind_some, List.length_append, hlen,
    Nat.add_sub_cancel, scaled_eq, hdrop, Option.pure_def]

/-- The part below a second is read back from three, six or nine digits, or from none. -/
theorem fraction?_fractionText {n : Nat} (hn : n < 1000000000) {rest : List Char}
    (hrest : Ends rest) (hpoint : rest.head? ≠ some '.') :
    fraction? (fractionText n ++ rest) = some (n, rest) := by
  unfold fractionText
  split_ifs with hzero hthree hsix
  · cases rest with
    | nil => simp [fraction?, hzero]
    | cons c cs =>
      have hc : c ≠ '.' := fun h => hpoint (by simp [h])
      simp only [List.nil_append, fraction?, hzero]
      grind
  · rw [List.cons_append, fraction?_point (by decide) (by decide) (by omega) hrest]
    congr 2
    omega
  · rw [List.cons_append, fraction?_point (by decide) (by decide) (by omega) hrest]
    congr 2
    omega
  · rw [List.cons_append, fraction?_point (by decide) (by decide) (by omega) hrest]
    simp

/-! ## The whole text -/

section Parts

variable (t : Timestamp)

theorem secondOfDay_lt : t.secondOfDay < 86400 := by unfold secondOfDay; omega

theorem hour_lt : t.hour < 24 := by have := t.secondOfDay_lt; unfold hour; omega

theorem minute_lt : t.minute < 60 := by unfold minute; omega

theorem second_le : t.second ≤ 60 := by have := t.nanos_lt; unfold second; omega

theorem date_bounds : -262143 ≤ t.date.year ∧ t.date.year ≤ 262142 := by
  obtain ⟨hlow, hhigh⟩ := t.inYears
  exact Date.year_bounds (by omega) (by omega)

/-- The parts of a timestamp name the timestamp. -/
theorem ofParts?_self :
    ofParts? t.date t.hour t.minute t.second t.fraction 0 = some t := by
  have hday : t.date.dayNumber = t.seconds / 86400 := Date.dayNumber_ofDayNumber _
  have hexists : t.date.Exists := Date.exists_ofDayNumber _
  have hnanos := t.nanos_lt
  have hseconds : t.date.dayNumber * 86400 +
      ((t.hour * 3600 + t.minute * 60 + min t.second 59 : Nat) : Int) - 0 = t.seconds := by
    have hleap := t.leap
    simp only [hday, hour, minute, second, secondOfDay]
    omega
  have hbelow : t.fraction + (t.second - min t.second 59) * 1000000000 = t.nanos := by
    have hleap := t.leap
    simp only [fraction, second, secondOfDay]
    omega
  simp only [ofParts?, guard, hexists, t.date_bounds, t.hour_lt, t.minute_lt, t.second_le,
    and_self, if_true, Option.bind_eq_bind, Option.pure_def, Option.bind_some, hseconds, hbelow]
  exact ofEpoch?_self t

end Parts

/-- The parts of a timestamp are read as that timestamp, whether a letter or a blank stands between
the date and the time. -/
theorem ofText?_parts (t : Timestamp) {c : Char} (hc : c = 'T' ∨ c = ' ') :
    ofText? (.ofList (t.dateText ++ c :: t.timeText ++ fractionText t.fraction ++ ['Z'])) =
      some t := by
  have hdash : Text.isBlank '-' = false := by decide
  have hcolon : Text.isBlank ':' = false := by decide
  have hmonth : t.date.month < 100 := Nat.lt_of_le_of_lt (Date.month_le _) (by decide)
  have hday : t.date.day < 100 := Nat.lt_of_le_of_lt (Date.day_le _) (by decide)
  have hhour : t.hour < 100 := Nat.lt_trans t.hour_lt (by decide)
  have hminute : t.minute < 100 := Nat.lt_trans t.minute_lt (by decide)
  have hsecond : t.second < 100 := Nat.lt_of_le_of_lt t.second_le (by decide)
  have hfraction : t.fraction < 1000000000 := Nat.mod_lt _ (by decide)
  have hend : Ends ['Z'] := ends_cons (by decide) []
  rcases hc with rfl | rfl
  all_goals
    simp only [ofText?, dateText, timeText, String.toList_ofList, List.append_assoc,
      List.cons_append, year?_yearText _ (ends_cons (show '-'.isDigit = false by decide) _),
      separated?_padded hdash hmonth, separated?_padded hdash hday, twoDigits?_padded hhour,
      separated?_padded hcolon hminute, separated?_padded hcolon hsecond,
      fraction?_fractionText hfraction hend (by decide), Option.bind_eq_bind, Option.bind_some]
    exact t.ofParts?_self

/-- The exact text of a timestamp is read as that timestamp. -/
@[simp] theorem ofText?_text (t : Timestamp) : ofText? t.text = some t := t.ofText?_parts (.inl rfl)

end Timestamp
end SqlBuilder
