import SqlBuilder.Value

/-!
# Times on the clocks of other zones

A point in time may be given by what a clock shows that is ahead of UTC, or behind it. As a value it
is the timestamp: the offset of the clock is taken off and then forgotten (`Value.ofZoned`), so all
zones that show the same point in time give the same value (`Value.ofZoned_inZone`).
-/

namespace SqlBuilder

/-- What the clock of a zone shows. -/
structure ZonedTime where
  /-- Seconds since 1970-01-01 00:00:00 on that clock. -/
  seconds : Int
  nanos : Nat
  /-- Seconds by which the clock is ahead of UTC. -/
  offset : Int
  inYears : -8334601228800 ≤ seconds - offset ∧ seconds - offset < 8210266876800
  nanos_lt : nanos < 2000000000
  /-- Leap seconds are inserted at the end of a minute of UTC. -/
  leap : 1000000000 ≤ nanos → (seconds - offset) % 60 = 59

/-- The point in time that the clock shows. -/
def ZonedTime.utc (z : ZonedTime) : Timestamp :=
  ⟨z.seconds - z.offset, z.nanos, z.inYears, z.nanos_lt, z.leap⟩

namespace Timestamp

/-- What a clock shows at this point in time that is ahead of UTC by the offset. -/
def inZone (t : Timestamp) (offset : Int) : ZonedTime where
  seconds := t.seconds + offset
  nanos := t.nanos
  offset := offset
  inYears := by rw [Int.add_sub_cancel]; exact t.inYears
  nanos_lt := t.nanos_lt
  leap := by rw [Int.add_sub_cancel]; exact t.leap

end Timestamp

/-- The point in time that a clock shows, as a value. -/
def Value.ofZoned (z : ZonedTime) : Value := .time z.utc

-- Half past three on new year's day, five hours ahead of UTC.
example : let shown := (Date.dayNumber ⟨2013, 1, 1⟩ * 24 + 3) * 3600 + 30 * 60
    (Value.ofZoned ⟨shown, 0, 5 * 3600, by decide, by decide, by decide⟩).stored =
      .text "2012-12-31 22:30:00" := by decide +kernel

end SqlBuilder
