import GnssAdapter.Gnss.Constellation

/-!
Satellites in view as the location engine receives them.
-/

namespace GnssAdapter

/-- What is known of a satellite in view. -/
inductive VisibilityOption where
  | hasEphemeris | hasAlmanac | usedInFix | hasCarrierFrequency
  deriving DecidableEq

instance : Flag VisibilityOption where
  width := 32
  layout := [
    (.hasEphemeris, 0, "HAS_EPHEMERIS"),
    (.hasAlmanac, 1, "HAS_ALMANAC"),
    (.usedInFix, 2, "USED_IN_FIX"),
    (.hasCarrierFrequency, 3, "HAS_CARRIER_FREQUENCY")]

structure VisibleSatellite where
  /-- Its number within the constellation. -/
  satelliteId : UInt16 := 0
  constellation : Constellation := .unknown
  cn0Dbhz : Float32 := 0
  elevation : Float32 := 0
  azimuth : Float32 := 0
  options : Mask VisibilityOption := ∅
  carrierFrequencyHz : Float32 := 0
  signal : Mask Signal := ∅

structure VisibilityReport where
  /-- The engine has named the signals; otherwise defaults are assumed. -/
  signalTypeValid : Bool := false
  satellites : List VisibleSatellite := []

end GnssAdapter
