import GnssAdapter.Gnss.Time

/-!
Small reports about the engine, its clocks and its constellations.
-/

namespace GnssAdapter

/-- A turn of the engine or of a fix session. -/
inductive EngineStatus where
  | none | sessionBegin | sessionEnd | engineOn | engineOff
  deriving DecidableEq

instance : Enumeration EngineStatus where
  names := [
    (.none, "None"),
    (.sessionBegin, "SessionBegin"),
    (.sessionEnd, "SessionEnd"),
    (.engineOn, "EngineOn"),
    (.engineOff, "EngineOff")]

/-- The ionospheric delay as eight coefficients. -/
structure KlobucharModel where
  constellation : SatelliteSystem := .unknown
  systemTime : Option SystemTime := none
  alpha : Vector Float32 4 := .replicate 4 0
  beta : Vector Float32 4 := .replicate 4 0

structure AdditionalSystemInfo where
  systemTime : Option SystemTime := none
  leapSeconds : Option UInt8 := none
  /-- Seconds between GLONASS time and UTC. -/
  tauC : Option Float := none

structure LeapSecondChange where
  gpsWeek : UInt16 := 0
  gpsTimeOfWeekMs : UInt32 := 0
  leapSecondsBefore : UInt8 := 0
  leapSecondsAfter : UInt8 := 0

structure LocationSystemInfo where
  currentLeapSeconds : Option UInt8 := none
  leapSecondChange : Option LeapSecondChange := none

def LocationSystemInfo.isEmpty (info : LocationSystemInfo) : Bool :=
  info.currentLeapSeconds.isNone && info.leapSecondChange.isNone

/-- The satellites not to be used: a bit for each number of a constellation, the lowest first. -/
structure SatelliteBlacklist where
  glonassBlacklist : UInt64 := 0
  bdsBlacklist : UInt64 := 0
  qzssBlacklist : UInt64 := 0
  galileoBlacklist : UInt64 := 0

/-- A constellation that can be switched off; GPS cannot. -/
inductive ControlledConstellation where
  | glo | bds | qzss | gal
  deriving DecidableEq

instance : Flag ControlledConstellation where
  width := 32
  layout := [
    (.glo, 0, "GLO"),
    (.bds, 1, "BDS"),
    (.qzss, 2, "QZSS"),
    (.gal, 3, "GAL")]

/-- The constellations to use and those not to use; others stay as they are. -/
structure ConstellationConfig where
  enabled : Mask ControlledConstellation := ∅
  blacklisted : Mask ControlledConstellation := ∅

end GnssAdapter
