import GnssAdapter.Flag

/-!
Aiding data that can be deleted or asked for.
-/

namespace GnssAdapter

/-- A kind of data that the engine keeps for each satellite. -/
inductive AidingSatelliteData where
  | ephemeris | almanac | health | direction | steer | almanacCorr | blacklist | saData | noExist
  | ionosphere | time | mbData | poly
  deriving DecidableEq

instance : Flag AidingSatelliteData where
  width := 32
  layout := [
    (.ephemeris, 0, "EPHEMERIS"),
    (.almanac, 1, "ALMANAC"),
    (.health, 2, "HEALTH"),
    (.direction, 3, "DIRECTION"),
    (.steer, 4, "STEER"),
    (.almanacCorr, 5, "ALMANAC_CORR"),
    (.blacklist, 6, "BLACKLIST"),
    (.saData, 7, "SA_DATA"),
    (.noExist, 8, "NO_EXIST"),
    (.ionosphere, 9, "IONOSPHERE"),
    (.time, 10, "TIME"),
    (.mbData, 11, "MB_DATA"),
    (.poly, 12, "POLY")]

/-- A constellation whose satellite data can be deleted. -/
inductive AidingConstellation where
  | gps | glonass | qzss | beidou | galileo
  deriving DecidableEq

instance : Flag AidingConstellation where
  width := 32
  layout := [
    (.gps, 0, "GPS"),
    (.glonass, 1, "GLONASS"),
    (.qzss, 2, "QZSS"),
    (.beidou, 3, "BEIDOU"),
    (.galileo, 4, "GALILEO")]

/-- A kind of data that belongs to no constellation. -/
inductive AidingCommonData where
  | position | time | utc | rti | frequencyBias | cellDatabase
  deriving DecidableEq

instance : Flag AidingCommonData where
  width := 32
  layout := [
    (.position, 0, "POSITION"),
    (.time, 1, "TIME"),
    (.utc, 2, "UTC"),
    (.rti, 3, "RTI"),
    (.frequencyBias, 4, "FREQ_BIAS_EST"),
    (.cellDatabase, 5, "CELLDB")]

/-- What is to be deleted, or what the engine has deleted. Everything is deleted if `deleteAll` is
set; else the satellite data of the selected constellations, and the common data. -/
structure AidingData where
  deleteAll : Bool := false
  satelliteData : Mask AidingSatelliteData := ∅
  constellations : Mask AidingConstellation := ∅
  commonData : Mask AidingCommonData := ∅

/-- A database that the engine reports as a whole when asked. -/
inductive SatelliteDatabase where
  | poly | ephemeris | ionosphere
  deriving DecidableEq

instance : Flag SatelliteDatabase where
  width := 32
  layout := [
    (.poly, 0, "POLY"),
    (.ephemeris, 1, "EPHEMERIS"),
    (.ionosphere, 2, "IONOSPHERE")]

end GnssAdapter
