import GnssAdapter.Clock
import GnssAdapter.Gnss.Time
import GnssAdapter.Gnss.Technology

/-!
Positions as the location engine receives them.
-/

namespace GnssAdapter

/-- In degrees. -/
structure Coordinates where
  latitude : Float := 0
  longitude : Float := 0

inductive LocationSource where
  | unknown | gnss
  deriving DecidableEq

instance : Enumeration LocationSource where
  names := [
    (.unknown, "Unknown"),
    (.gnss, "Gnss")]

structure Location where
  coordinates : Option Coordinates := none
  /-- Meters above the WGS-84 ellipsoid. -/
  altitude : Option Float := none
  /-- Meters per second over ground. -/
  speed : Option Float32 := none
  /-- Degrees from north. -/
  bearing : Option Float32 := none
  /-- Meters that the position is right to, with 68 percent confidence. -/
  accuracy : Option Float32 := none
  /-- In meters. -/
  verticalAccuracy : Option Float32 := none
  /-- In UTC; zero if it is unknown. -/
  timestampMs : UInt64 := 0
  source : LocationSource := .unknown
  spoofMask : Option UInt32 := none
  /-- The position is that of its measurement, not of the time of the report. -/
  unpropagated : Bool := false

inductive Reliability where
  | notSet | veryLow | low | medium | high
  deriving DecidableEq

instance : Enumeration Reliability where
  names := [
    (.notSet, "NotSet"),
    (.veryLow, "VeryLow"),
    (.low, "Low"),
    (.medium, "Medium"),
    (.high, "High")]

/-- Dilution of precision: in position, horizontally and vertically. -/
structure Dilution where
  pdop : Float32 := 0
  hdop : Float32 := 0
  vdop : Float32 := 0

/-- Dilution of precision with that of geometry and of time. -/
structure ExtendedDilution where
  pdop : Float32 := 0
  hdop : Float32 := 0
  vdop : Float32 := 0
  gdop : Float32 := 0
  tdop : Float32 := 0

/-- A vector by its components to the east, to the north and upward. -/
structure Enu where
  east : Float32 := 0
  north : Float32 := 0
  up : Float32 := 0

structure UncertaintyEllipse where
  semiMajor : Option Float32 := none
  semiMinor : Option Float32 := none
  /-- Where the major axis points. -/
  azimuth : Option Float32 := none

/-- The satellites used in a fix: a bit for each number of a constellation, the lowest first. -/
structure UsedSatellites where
  gps : UInt64 := 0
  glonass : UInt64 := 0
  bds : UInt64 := 0
  galileo : UInt64 := 0
  qzss : UInt64 := 0

structure SatelliteUsage where
  constellation : Constellation
  satelliteId : UInt16
  signal : Mask Signal

/-- When a report reached this processor, by the clock since boot. -/
structure ApTimestamp where
  bootTime : Duration := {}
  uncertaintyMs : Float32 := 0

/-- What is known of a fix besides its position. -/
structure LocationExtended where
  apTimestamp : Option ApTimestamp := none
  technologies : Option (Mask Technology) := none
  magneticDeviation : Option Float32 := none
  dop : Option Dilution := none
  extendedDop : Option ExtendedDilution := none
  altitudeMeanSeaLevel : Option Float32 := none
  verticalUncertainty : Option Float32 := none
  speedUncertainty : Option Float32 := none
  bearingUncertainty : Option Float32 := none
  horizontalReliability : Option Reliability := none
  verticalReliability : Option Reliability := none
  uncertaintyEllipse : UncertaintyEllipse := {}
  northStdDev : Option Float32 := none
  eastStdDev : Option Float32 := none
  usedSatellites : Option UsedSatellites := none
  satelliteUsage : List SatelliteUsage := []
  corrections : Option (Mask Correction) := none
  gpsTime : Option GpsTime := none
  velocity : Option Enu := none
  velocityUncertainty : Option Enu := none
  systemTime : Option GnssTime := none
  timeUncertaintyMs : Option Float32 := none
  leapSeconds : Option UInt8 := none

/-- Gain and jamming of one band, in dB. -/
structure SignalJamming where
  agcDb : Option Float := none
  jammerDb : Option Float := none

structure JammerData where
  signals : List SignalJamming := []

inductive ReportStatus where
  | success | intermediate | failure
  deriving DecidableEq

instance : Enumeration ReportStatus where
  names := [
    (.success, "Success"),
    (.intermediate, "Intermediate"),
    (.failure, "Failure")]

structure PositionReport where
  location : Location
  extended : LocationExtended
  status : ReportStatus
  technologies : Mask Technology
  data : JammerData
  /-- The GPS time of week; -1 if jammer data takes its place. -/
  msInWeek : Int32

/-- A location with what else the engine takes in. -/
structure LocationInfo where
  location : Location := {}
  systemTime : Option GnssTime := none
  leapSeconds : Option UInt8 := none
  eastVelocity : Option Float32 := none
  northVelocity : Option Float32 := none
  upVelocity : Option Float32 := none
  eastVelocityStdDev : Option Float32 := none
  northVelocityStdDev : Option Float32 := none
  upVelocityStdDev : Option Float32 := none
  timeUncertaintyMs : Option Float32 := none
  usedSatellites : Option UsedSatellites := none
  technologies : Mask Technology := ∅

namespace Enu

def ofVector (components : Vector Float32 3) : Enu :=
  ⟨components[0], components[1], components[2]⟩

def toVector (enu : Enu) : Vector Float32 3 :=
  #v[enu.east, enu.north, enu.up]

end Enu

end GnssAdapter
