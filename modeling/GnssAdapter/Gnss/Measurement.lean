import GnssAdapter.Gnss.Time

/-!
Parts of satellite measurements that the engine sends and reports pass on unchanged.
-/

namespace GnssAdapter

/-- What is claimed of a measurement. A second mask of the same flags says which claims are valid.
-/
inductive MeasurementStatus where
  | smValid | sbValid | msValid | beConfirm | velocityValid | velocityFine | lpValid | lpPosValid
  | fromRngDiff | fromVeDiff | dontUseX | dontUseM | dontUseD | dontUseS | dontUseP | gal100ms
  | gal2s | freshMeas
  deriving DecidableEq

instance : Flag MeasurementStatus where
  width := 64
  layout := [
    (.smValid, 0, "SM_VALID"),
    (.sbValid, 1, "SB_VALID"),
    (.msValid, 2, "MS_VALID"),
    (.beConfirm, 3, "BE_CONFIRM"),
    (.velocityValid, 4, "VELOCITY_VALID"),
    (.velocityFine, 5, "VELOCITY_FINE"),
    (.lpValid, 6, "LP_VALID"),
    (.lpPosValid, 7, "LP_POS_VALID"),
    (.fromRngDiff, 9, "FROM_RNG_DIFF"),
    (.fromVeDiff, 10, "FROM_VE_DIFF"),
    (.dontUseX, 11, "DONT_USE_X"),
    (.dontUseM, 12, "DONT_USE_M"),
    (.dontUseD, 13, "DONT_USE_D"),
    (.dontUseS, 14, "DONT_USE_S"),
    (.dontUseP, 15, "DONT_USE_P"),
    (.gal100ms, 34, "GAL_100MS"),
    (.gal2s, 35, "GAL_2S"),
    (.freshMeas, 56, "FRESH_MEAS")]

/-- How fast the receiver clock drifts. -/
structure ClockFrequency where
  /-- In m/s. -/
  clockDrift : Float32 := 0
  clockDriftUncertainty : Float32 := 0
  sourceOfFrequency : UInt32 := 0

/-- How far the clocks of two constellations are apart. -/
structure SystemBias where
  validMask : UInt32 := 0
  /-- In ms. -/
  timeBias : Float32 := 0
  timeBiasUncertainty : Float32 := 0

/-- The known biases between pairs of constellations and of signals. -/
structure SystemBiases where
  gpsGlonass : Option SystemBias := none
  gpsBds : Option SystemBias := none
  gpsGalileo : Option SystemBias := none
  bdsGlonass : Option SystemBias := none
  galileoGlonass : Option SystemBias := none
  galileoBds : Option SystemBias := none
  galileoE1E5a : Option SystemBias := none
  gpsL1L5 : Option SystemBias := none

/-- The time that a satellite signal carries, and its Doppler shift. -/
structure TimeSpeed where
  satelliteTimeMs : UInt32 := 0
  satelliteTimeSubMs : Float32 := 0
  satelliteTimeUncertaintyMs : Float32 := 0
  dopplerShift : Float32 := 0
  dopplerShiftUncertainty : Float32 := 0

/-- Where a polynomial comes from, and whether it holds. -/
inductive PolynomialStatus where
  | fromEphemeris | fromAlmanac | fromXtra | validPoly
  deriving DecidableEq

instance : Flag PolynomialStatus where
  width := 8
  layout := [
    (.fromEphemeris, 0, "FROM_EPHEMERIS"),
    (.fromAlmanac, 1, "FROM_ALMANAC"),
    (.fromXtra, 2, "FROM_XTRA"),
    (.validPoly, 3, "VALID_POLY")]

/-- A satellite orbit near a time, as a polynomial. -/
structure OrbitPolynomial where
  satelliteId : UInt16 := 0
  t0 : Float := 0
  glonassFrequency : Option UInt8 := none
  iode : Option UInt16 := none
  satellitePositionUncertainty : Option Float32 := none
  flags : Option (Mask PolynomialStatus) := none
  xyz0 : Option (Vector Float 3) := none
  xyzn : Option (Vector Float 9) := none
  clockBias : Option (Vector Float32 4) := none
  ionoDot : Option Float32 := none
  ionoDelay : Option Float32 := none
  sbasIonoDot : Option Float32 := none
  sbasIonoDelay : Option Float32 := none
  tropoDelay : Option Float32 := none
  elevation : Option Float32 := none
  elevationDot : Option Float32 := none
  elevationUncertainty : Option Float32 := none
  velocityCoefficients : Option (Vector Float 12) := none
  enhancedIod : Option UInt32 := none

end GnssAdapter
