import GnssAdapter.Report.Location
import GnssAdapter.Gnss.Measurement

/-!
Measurement epochs as the location engine receives them, raw and processed.
-/

namespace GnssAdapter

/-- The time of a constellation at an epoch. -/
structure EpochSystemTime where
  time : Option SystemTime := none
  frameCount : Option UInt32 := none
  clockResets : Option UInt32 := none

/-- The time of GLONASS at an epoch. -/
structure EpochGlonassTime where
  time : Option GlonassTime := none
  frameCount : Option UInt32 := none
  clockResets : Option UInt32 := none

/-- What all satellites of an epoch have in common. -/
structure RawHeader where
  clockFrequency : Option ClockFrequency := none
  leapSeconds : Option UInt8 := none
  biases : SystemBiases := {}
  gpsTime : EpochSystemTime := {}
  galileoTime : EpochSystemTime := {}
  bdsTime : EpochSystemTime := {}
  qzssTime : EpochSystemTime := {}
  glonassTime : EpochGlonassTime := {}
  /-- The real-time clock at the fragment that gave it last. -/
  rtcMs : Option UInt64 := none
  apTimestamp : Option ApTimestamp := none

structure RawExtras where
  multipathEstimate : Option Float32 := none
  fineSpeed : Option Float32 := none
  fineSpeedUncertainty : Option Float32 := none
  carrierPhase : Option Float := none
  carrierPhaseUncertainty : Option Float32 := none
  elevation : Option Float32 := none
  azimuth : Option Float32 := none
  cycleSlipCount : Option UInt8 := none

structure RawMeasurement where
  system : SatelliteSystem := .unknown
  signal : Option (Mask Signal) := none
  satelliteId : UInt16 := 0
  glonassFrequency : UInt8 := 0
  lossOfLock : Option Bool := none
  satelliteStatus : UInt8 := 0
  healthStatus : Option UInt8 := none
  satelliteInfoMask : UInt8 := 0
  cno : UInt16 := 0
  glonassRfLoss : UInt16 := 0
  measurementLatency : Int32 := 0
  timeSpeed : TimeSpeed := {}
  status : Mask MeasurementStatus := ∅
  validStatus : Mask MeasurementStatus := ∅
  extras : RawExtras := {}

/-- The measurements of an epoch, as the engine made them. -/
structure RawSet where
  isNhz : Bool := false
  header : RawHeader := {}
  measurements : List RawMeasurement := []

inductive MultipathIndicator where
  | unknown | present | notPresent
  deriving DecidableEq

instance : Enumeration MultipathIndicator where
  names := [
    (.unknown, "Unknown"),
    (.present, "Present"),
    (.notPresent, "NotPresent")]

/-- A stage of synchronisation with a satellite signal. -/
inductive TrackingState where
  | codeLock | bitSync | subframeSync | towDecoded | msecAmbiguous | symbolSync | gloStringSync
  | gloTodDecoded | bdsD2BitSync | bdsD2SubframeSync | galE1bcCodeLock | galE1c2ndCodeLock
  | galE1bPageSync | sbasSync
  deriving DecidableEq

instance : Flag TrackingState where
  width := 32
  layout := [
    (.codeLock, 0, "CODE_LOCK"),
    (.bitSync, 1, "BIT_SYNC"),
    (.subframeSync, 2, "SUBFRAME_SYNC"),
    (.towDecoded, 3, "TOW_DECODED"),
    (.msecAmbiguous, 4, "MSEC_AMBIGUOUS"),
    (.symbolSync, 5, "SYMBOL_SYNC"),
    (.gloStringSync, 6, "GLO_STRING_SYNC"),
    (.gloTodDecoded, 7, "GLO_TOD_DECODED"),
    (.bdsD2BitSync, 8, "BDS_D2_BIT_SYNC"),
    (.bdsD2SubframeSync, 9, "BDS_D2_SUBFRAME_SYNC"),
    (.galE1bcCodeLock, 10, "GAL_E1BC_CODE_LOCK"),
    (.galE1c2ndCodeLock, 11, "GAL_E1C_2ND_CODE_LOCK"),
    (.galE1bPageSync, 12, "GAL_E1B_PAGE_SYNC"),
    (.sbasSync, 13, "SBAS_SYNC")]

structure ProcessedMeasurement where
  constellation : Constellation := .unknown
  satelliteId : UInt16 := 0
  timeOffsetNs : Float := 0
  state : Mask TrackingState := ∅
  receivedSatelliteTimeNs : Int64 := 0
  receivedSatelliteTimeUncertaintyNs : Int64 := 0
  cn0Dbhz : Float := 0
  pseudorangeRateMps : Float := 0
  pseudorangeRateUncertaintyMps : Float := 0
  carrierFrequencyHz : Option Float32 := none
  multipath : MultipathIndicator := .unknown
  agcLevelDb : Option Float := none

/-- The receiver clock at an epoch, against GPS time. -/
structure ReceiverClock where
  timeNs : Int64 := 0
  timeUncertaintyNs : Float := 0
  fullBiasNs : Option Int64 := none
  biasNs : Option Float := none
  biasUncertaintyNs : Option Float := none
  driftNsps : Option Float := none
  driftUncertaintyNsps : Option Float := none
  discontinuities : UInt32 := 0

/-- The measurements of an epoch in units of physics. -/
structure ProcessedEpoch where
  clock : ReceiverClock := {}
  measurements : List ProcessedMeasurement := []

end GnssAdapter
