/-!
# Dates of the proleptic Gregorian calendar

Days are counted from 1970-01-01. A year is taken to begin in March, so that the leap day is its
last day and the lengths of the months before it follow one linear rule; four hundred such years
are one cycle of 146097 days.

**Dates and day numbers.** `Date.ofDayNumber` and `Date.dayNumber` are inverse on the dates that
exist, and a date that does not exist is recognised by exactly that: the 30th of February names
the same day as a date in March, so going to the day number and back does not return it.
-/

namespace SqlBuilder

/-- Year, month and day. The year before year 1 is year 0. -/
structure Date where
  year : Int
  month : Nat
  day : Nat
deriving DecidableEq, Repr

namespace Date

/-- Days from 0000-03-01 to 1970-01-01. -/
def epochShift : Int := 719468

/-- Days in a cycle of four hundred years. -/
def cycleDays : Int := 146097

/-- Year within its cycle of the day `d` of the cycle: centuries of 36524 days, in them blocks of
four years of 1461 days. The last century and the last year of a block are a day longer. -/
def yearOfCycle (d : Nat) : Nat :=
  let century := min (d / 36524) 3
  let inCentury := d - 36524 * century
  let block := inCentury / 1461
  100 * century + 4 * block + min ((inCentury - 1461 * block) / 365) 3

/-- Day of the cycle on which the year `y` of the cycle begins. -/
def yearStart (y : Nat) : Nat := 365 * y + y / 4 - y / 100

/-- Day of the year on which the month `m` begins, March being 0. -/
def monthStart (m : Nat) : Nat := (153 * m + 2) / 5

/-- The date of a day number. -/
def ofDayNumber (n : Int) : Date :=
  let z := n + epochShift
  let dayOfCycle := (z % cycleDays).toNat
  let y := yearOfCycle dayOfCycle
  let dayOfYear := dayOfCycle - yearStart y
  let m := (5 * dayOfYear + 2) / 153
  { year := y + 400 * (z / cycleDays) + if m < 10 then 0 else 1
    month := if m < 10 then m + 3 else m - 9
    day := dayOfYear - monthStart m + 1 }

/-- The day number of a date. -/
def dayNumber (d : Date) : Int :=
  let y := if d.month ≤ 2 then d.year - 1 else d.year
  let m := if d.month ≤ 2 then d.month + 9 else d.month - 3
  y / 400 * cycleDays + (yearStart (y % 400).toNat + monthStart m + d.day : Nat) - 1 - epochShift

/-- The date exists in the calendar. -/
def Exists (d : Date) : Prop := ofDayNumber d.dayNumber = d

instance (d : Date) : Decidable d.Exists := inferInstanceAs (Decidable (_ = _))

theorem yearOfCycle_lt {d : Nat} (h : d < 146097) : yearOfCycle d < 400 := by
  simp only [yearOfCycle]; omega

theorem yearStart_yearOfCycle_le (d : Nat) : yearStart (yearOfCycle d) ≤ d := by
  simp only [yearStart, yearOfCycle]; omega

theorem lt_yearStart_succ {d : Nat} (h : d < 146097) : d < yearStart (yearOfCycle d) + 366 := by
  simp only [yearStart, yearOfCycle]; omega

theorem monthStart_le {d : Nat} : monthStart ((5 * d + 2) / 153) ≤ d := by
  unfold monthStart; omega

/-- No day is lost on the way to its date and back. -/
@[simp] theorem dayNumber_ofDayNumber (n : Int) : (ofDayNumber n).dayNumber = n := by
  have hcycle : 0 < cycleDays := by decide
  generalize hz : n + epochShift = z
  have hpos := Int.emod_nonneg z (Int.ne_of_gt hcycle)
  have hlt := Int.emod_lt_of_pos z hcycle
  have hd : (z % cycleDays).toNat < 146097 := by unfold cycleDays at hlt ⊢; omega
  generalize hdc : (z % cycleDays).toNat = d at hd
  have hy := yearOfCycle_lt hd
  have hstart := yearStart_yearOfCycle_le d
  have hend := lt_yearStart_succ hd
  have hdiv := Int.mul_ediv_add_emod z cycleDays
  simp only [ofDayNumber, dayNumber, hz, hdc]
  generalize yearOfCycle d = y at hy hstart hend ⊢
  generalize hq : d - yearStart y = q
  have hmonth : monthStart ((5 * q + 2) / 153) ≤ q := monthStart_le
  have hm : (5 * q + 2) / 153 ≤ 11 := by omega
  generalize (5 * q + 2) / 153 = m at hmonth hm ⊢
  have hyear : ((y : Int) + 400 * (z / cycleDays)) / 400 = z / cycleDays := by omega
  have hrest : (((y : Int) + 400 * (z / cycleDays)) % 400).toNat = y := by omega
  split
  · rename_i h
    have h1 : ¬ m + 3 ≤ 2 := by omega
    have h2 : m + 3 - 3 = m := by omega
    simp only [h1, if_false, h2, Int.add_zero, hyear, hrest]
    rw [Int.mul_comm] at hdiv
    omega
  · rename_i h
    have h1 : m - 9 ≤ 2 := by omega
    have h2 : m - 9 + 9 = m := by omega
    simp only [h1, if_true, h2, Int.add_sub_cancel, hyear, hrest]
    rw [Int.mul_comm] at hdiv
    omega

/-- Every day number has a date that exists. -/
theorem exists_ofDayNumber (n : Int) : (ofDayNumber n).Exists := by
  unfold Exists; rw [dayNumber_ofDayNumber]

example : ofDayNumber 0 = ⟨1970, 1, 1⟩ := by decide
example : ofDayNumber 11016 = ⟨2000, 2, 29⟩ := by decide
example : ofDayNumber (-719529) = ⟨-1, 12, 31⟩ := by decide
example : ¬ Exists ⟨2023, 2, 29⟩ ∧ ¬ Exists ⟨2023, 13, 1⟩ ∧ ¬ Exists ⟨2023, 0, 1⟩ := by decide

end Date
end SqlBuilder
