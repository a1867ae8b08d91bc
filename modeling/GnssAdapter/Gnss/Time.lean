import GnssAdapter.Gnss.Constellation

/-!
GNSS time as weeks and milliseconds, and GLONASS time as four-year cycles, days and milliseconds.
-/

namespace GnssAdapter

/-- A time of GPS. -/
structure GpsTime where
  week : UInt16 := 0
  towMs : UInt32 := 0

/-- A time of a constellation that counts weeks, with the receiver clock bias. -/
structure SystemTime where
  week : UInt16 := 0
  weekMs : UInt32 := 0
  clockTimeBiasMs : Float32 := 0
  clockTimeUncertaintyMs : Float32 := 0

/-- A time of GLONASS, with the receiver clock bias; the greatest counter values stand for unknown
ones. -/
structure GlonassTime where
  fourYear : UInt8 := 0
  days : UInt16 := 0
  msec : UInt32 := 0
  clockTimeBiasMs : Float32 := 0
  clockTimeUncertaintyMs : Float32 := 0

/-- The frame counter of the receiver, and its real-time clock. -/
structure FrameTime where
  frameCount : UInt32 := 0
  rtcMs : Option UInt64 := none

/-- A time of some constellation. -/
inductive GnssTime where
  | gps (content : SystemTime)
  | galileo (content : SystemTime)
  | beidou (content : SystemTime)
  | qzss (content : SystemTime)
  | glonass (content : GlonassTime)

/-- Leap seconds, and how uncertain they are. -/
structure LeapSecondState where
  leapSeconds : UInt8 := 0
  uncertainty : UInt8 := 0

end GnssAdapter
