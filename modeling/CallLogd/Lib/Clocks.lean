/-
Wall clocks and the time zones that set them, as Python's `datetime` has them.

An instant is a number of microseconds since the start of 1970 in UTC. What a time zone
makes of it is a reading of the clock there, and when the clock is put back the same
reading comes twice: `fold` tells the second time from the first.
-/
import CallLogd.Lib.Calendar

namespace Clocks

open Calendar

structure LocalTime where
  wall : ℤ
  fold : Bool
deriving DecidableEq

/-- A time zone: what its clocks show, and how far a reading is from UTC. -/
structure TimeZone where
  fromutc : ℤ → LocalTime
  utcoffset : LocalTime → ℤ
  /-- What a clock shows is off by the offset of what it shows. -/
  wall_fromutc : ∀ t, (fromutc t).wall = t + utcoffset (fromutc t)

namespace TimeZone

/-- The instant of a reading. Every reading has one, also those that are skipped when
the clock is put forward. -/
def instant (z : TimeZone) (t : LocalTime) : ℤ := t.wall - z.utcoffset t

@[simp] lemma instant_fromutc (z : TimeZone) (t : ℤ) : z.instant (z.fromutc t) = t := by
  rw [instant, z.wall_fromutc, add_sub_cancel_right]

/-- The zone of a constant offset. -/
def fixed (offset : ℤ) : TimeZone where
  fromutc t := ⟨t + offset, false⟩
  utcoffset _ := offset
  wall_fromutc _ := rfl

def utc : TimeZone := fixed 0

end TimeZone

namespace LocalTime

def hour (t : LocalTime) : ℕ := hourOf t.wall

def isoweekday (t : LocalTime) : ℕ := Calendar.isoweekday t.wall

/-- The first reading of the next day. -/
def tomorrow (t : LocalTime) : LocalTime := ⟨(t.wall / day + 1) * day, false⟩

/-- A day later on the clock. -/
def addDay (t : LocalTime) : LocalTime := ⟨t.wall + day, false⟩

/-- A month later on the clock. -/
def addMonth (t : LocalTime) : LocalTime := ⟨Calendar.addMonth t.wall, false⟩

end LocalTime

end Clocks
