/-!
Readings of the clocks that reports are stamped with.
-/

namespace GnssAdapter

/-- A span of time with less than a second of nanoseconds. -/
structure Duration where
  seconds : UInt64 := 0
  nanoseconds : UInt32 := 0

namespace Duration

/-- Carries whole seconds out of the nanoseconds; `none` if the seconds leave 64 bits. -/
def ofParts? (seconds : UInt64) (nanoseconds : UInt32) : Option Duration :=
  let total := seconds.toNat + nanoseconds.toNat / 1000000000
  if total < UInt64.size then
    some ⟨UInt64.ofNat total, UInt32.ofNat (nanoseconds.toNat % 1000000000)⟩
  else none

def ofMilliseconds (milliseconds : UInt64) : Duration :=
  ⟨milliseconds / 1000, (milliseconds % 1000).toUInt32 * 1000000⟩

/-- Whole milliseconds; what 64 bits cannot count is the greatest number. -/
def toMilliseconds (duration : Duration) : UInt64 :=
  let total := duration.seconds.toNat * 1000 + duration.nanoseconds.toNat / 1000000
  .ofNat (min total (UInt64.size - 1))

end Duration

/-- What the two clocks of a process show. The one counts the time since it was first read in the
process; the other is the wall clock. -/
structure ClockReading where
  /-- Time since the first reading. -/
  bootTime : Duration
  /-- The same in milliseconds. -/
  uptimeMs : UInt64
  /-- Milliseconds of UTC; zero before 1970. -/
  utcMs : UInt64
  uptimeMs_eq : uptimeMs = bootTime.toMilliseconds := by decide

/-- The first reading, at the beginning of 1970. -/
def ClockReading.first : ClockReading where
  bootTime := {}
  uptimeMs := 0
  utcMs := 0

end GnssAdapter
