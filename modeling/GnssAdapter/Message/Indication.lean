import GnssAdapter.Message.Response
import GnssAdapter.Gnss.Measurement
import GnssAdapter.Gnss.Technology
import GnssAdapter.Network.DataCall
import GnssAdapter.Report.Location

/-!
Events that the remote engine sends on its own. Every optional field of the protocol may be absent.
-/

namespace GnssAdapter

/-- The value of a jammer metric that is not available. -/
def noJammerMetric : Int32 := 0x7FFFFFFF

/-- Gain and jamming of one band, in hundredths of dB. -/
structure JammerIndicator where
  agcMetric : Int32 := noJammerMetric
  jammerMetric : Int32 := noJammerMetric

/-- A position with everything that the engine knows about it. -/
structure PositionIndication where
  sessionStatus : SessionStatus := .success
  sessionId : UInt8 := 0
  latitude : Option Float := none
  longitude : Option Float := none
  circularUncertainty : Option Float32 := none
  ellipseSemiMinor : Option Float32 := none
  ellipseSemiMajor : Option Float32 := none
  /-- Radians. -/
  ellipseAzimuth : Option Float32 := none
  horizontalConfidence : Option UInt8 := none
  horizontalReliability : Option Reliability := none
  speed : Option Float32 := none
  speedUncertainty : Option Float32 := none
  altitude : Option Float32 := none
  altitudeMeanSeaLevel : Option Float32 := none
  verticalUncertainty : Option Float32 := none
  verticalReliability : Option Reliability := none
  heading : Option Float32 := none
  headingUncertainty : Option Float32 := none
  magneticDeviation : Option Float32 := none
  technologies : Mask NativeTechnology := ∅
  dop : Option Dilution := none
  extendedDop : Option ExtendedDilution := none
  timestampUtcMs : Option UInt64 := none
  leapSeconds : Option UInt8 := none
  gpsTime : Option GpsTime := none
  timeUncertaintyMs : Option Float32 := none
  usedSatellites : Option (List UInt16) := none
  expandedUsedSatellites : Option (List UInt16) := none
  usedSignals : Option (List (Mask Signal)) := none
  corrections : Option (Mask NativeCorrection) := none
  velocity : Option (Vector Float32 3) := none
  velocityUncertainty : Option (Vector Float32 3) := none
  spoofMask : Option UInt32 := none
  /-- The first entry sums up all bands. -/
  jammerIndicators : Option (List JammerIndicator) := none

/-- What the engine holds about a satellite. -/
inductive HeldData where
  | hasEphemeris | hasAlmanac
  deriving DecidableEq

instance : Flag HeldData where
  width := 8
  layout := [
    (.hasEphemeris, 0, "HAS_EPHEMERIS"),
    (.hasAlmanac, 1, "HAS_ALMANAC")]

structure SatelliteInfo where
  system : Option SatelliteSystem := none
  satelliteId : Option UInt16 := none
  snr : Option Float32 := none
  elevation : Option Float32 := none
  azimuth : Option Float32 := none
  satelliteInfoMask : Option (Mask HeldData) := none

structure ExpandedSatelliteInfo where
  info : SatelliteInfo := {}
  glonassFrequency : UInt8 := 0

structure SatelliteInfoIndication where
  satellites : Option (List SatelliteInfo) := none
  expandedSatellites : Option (List ExpandedSatelliteInfo) := none
  /-- The signals, one for each satellite that is reported. -/
  signals : Option (List (Mask Signal)) := none

structure FragmentMeasurement where
  satelliteId : UInt16 := 0
  glonassFrequency : UInt8 := 0
  lossOfLock : Option Bool := none
  satelliteStatus : UInt8 := 0
  healthStatus : Option UInt8 := none
  satelliteInfoMask : UInt8 := 0
  /-- Signal strength in dB-Hz scaled by 10. -/
  cno : UInt16 := 0
  glonassRfLoss : UInt16 := 0
  measurementLatency : Int32 := 0
  timeSpeed : TimeSpeed := {}
  status : Mask MeasurementStatus := ∅
  validStatus : Mask MeasurementStatus := ∅
  multipathEstimate : Option Float32 := none
  fineSpeed : Option Float32 := none
  fineSpeedUncertainty : Option Float32 := none
  carrierPhase : Option Float := none
  satelliteElevation : Option Float32 := none
  satelliteAzimuth : Option Float32 := none
  cycleSlipCount : Option UInt8 := none

/-- A part of a measurement epoch: the satellites of one constellation on one signal. -/
structure MeasurementFragment where
  sequenceNumber : UInt8 := 0
  sequenceLength : UInt8 := 0
  system : SatelliteSystem := .unknown
  signal : Option (Mask Signal) := none
  isNhz : Option Bool := none
  receiverClockFrequency : Option ClockFrequency := none
  leapSecond : Option LeapSecondState := none
  biases : SystemBiases := {}
  glonassTime : Option GlonassTime := none
  systemTime : Option SystemTime := none
  frameTime : Option FrameTime := none
  clockResets : Option UInt32 := none
  measurements : Option (List FragmentMeasurement) := none
  /-- Measurements that did not fit the first list, for constellations with many satellites. -/
  overflowMeasurements : Option (List FragmentMeasurement) := none
  carrierPhaseUncertainty : Option (List Float32) := none
  jammerIndicator : Option JammerIndicator := none

/-- The orbit of a satellite; its update action is still a code. -/
structure NativeKeplerElements where
  satelliteId : UInt16 := 0
  updateAction : UInt8 := 0
  iode : UInt16 := 0
  aSqrt : Float := 0
  deltaN : Float := 0
  m0 : Float := 0
  eccentricity : Float := 0
  omega0 : Float := 0
  i0 : Float := 0
  omega : Float := 0
  omegaDot : Float := 0
  iDot : Float := 0
  cUc : Float := 0
  cUs : Float := 0
  cRc : Float := 0
  cRs : Float := 0
  cIc : Float := 0
  cIs : Float := 0
  toe : UInt32 := 0
  toc : UInt32 := 0
  af0 : Float := 0
  af1 : Float := 0
  af2 : Float := 0

structure NativeGpsEphemeris where
  common : NativeKeplerElements := {}
  signalHealth : UInt8 := 0
  urai : UInt8 := 0
  codeL2 : UInt8 := 0
  dataFlagL2p : UInt8 := 0
  tgd : Float := 0
  fitInterval : UInt8 := 0
  iodc : UInt16 := 0

structure NativeGlonassEphemeris where
  satelliteId : UInt16 := 0
  updateAction : UInt8 := 0
  bnHealth : UInt8 := 0
  lnHealth : UInt8 := 0
  tb : UInt8 := 0
  ft : UInt8 := 0
  glonassM : UInt8 := 0
  enAge : UInt8 := 0
  glonassFrequency : UInt8 := 0
  p1 : UInt8 := 0
  p2 : UInt8 := 0
  deltaTau : Float32 := 0
  position : Vector Float 3 := .replicate 3 0
  velocity : Vector Float 3 := .replicate 3 0
  acceleration : Vector Float 3 := .replicate 3 0
  tauN : Float32 := 0
  gamma : Float := 0
  toe : Float := 0
  nt : UInt16 := 0

structure NativeBdsEphemeris where
  common : NativeKeplerElements := {}
  satelliteHealth : UInt8 := 0
  aodc : UInt8 := 0
  tgd1 : Float := 0
  tgd2 : Float := 0
  urai : UInt8 := 0

structure NativeGalileoEphemeris where
  common : NativeKeplerElements := {}
  /-- A code for the signal that the data was decoded from. -/
  dataSourceSignal : UInt8 := 0
  sisIndex : UInt8 := 0
  bgdE1E5a : Float := 0
  bgdE1E5b : Float := 0
  satelliteHealth : UInt8 := 0

/-- The ephemerides of one constellation. -/
inductive NativeEphemerisList where
  | gps (items : List NativeGpsEphemeris)
  | glonass (items : List NativeGlonassEphemeris)
  | bds (items : List NativeBdsEphemeris)
  | galileo (items : List NativeGalileoEphemeris)
  | qzss (items : List NativeGpsEphemeris)

structure EphemerisIndication where
  gpsSystemTime : Option SystemTime
  list : NativeEphemerisList

structure NmeaIndication where
  nmea : String := ""
  expandedNmea : Option String := none

/-- The engine wants predicted orbits, and names servers that have them. -/
structure PredictedOrbitsIndication where
  serverList : List String := []

/-- The engine wants a data call opened or closed. -/
structure ServerConnectionIndication where
  connection : UInt32
  requestType : ServerRequestType
  wwanType : WwanType
  bearerType : Option BearerType
  apnTypes : Option (Mask NativeApnType)

inductive WifiRequestKind where
  | startPeriodicHiFreqFixes | startPeriodicKeepWarm | stopPeriodicFixes | other
  deriving DecidableEq

instance : Enumeration WifiRequestKind where
  names := [
    (.startPeriodicHiFreqFixes, "StartPeriodicHiFreqFixes"),
    (.startPeriodicKeepWarm, "StartPeriodicKeepWarm"),
    (.stopPeriodicFixes, "StopPeriodicFixes"),
    (.other, "Other")]

structure WifiIndication where
  requestType : WifiRequestKind
  emergencyMode : Option UInt8
  intervalMs : Option UInt32

/-- Data of a constellation that the engine has deleted. -/
inductive DeletionEvent where
  | gpsEphemeris | glonassEphemeris | beidouEphemeris | galileoEphemeris
  | qzssEphemeris | gpsPolynomial | glonassPolynomial | beidouPolynomial
  | galileoPolynomial | qzssPolynomial | gpsIonosphere | glonassIonosphere
  | beidouIonosphere | galileoIonosphere | qzssIonosphere
  deriving DecidableEq

instance : Flag DeletionEvent where
  width := 64
  layout := [
    (.gpsEphemeris, 0, "DELETE_GPS_EPHEMERIS_ALL"),
    (.glonassEphemeris, 1, "DELETE_GLO_EPHEMERIS_ALL"),
    (.beidouEphemeris, 2, "DELETE_BDS_EPHEMERIS_ALL"),
    (.galileoEphemeris, 3, "DELETE_GAL_EPHEMERIS_ALL"),
    (.qzssEphemeris, 4, "DELETE_QZSS_EPHEMERIS_ALL"),
    (.gpsPolynomial, 5, "DELETE_GPS_SV_POLY_ALL"),
    (.glonassPolynomial, 6, "DELETE_GLO_SV_POLY_ALL"),
    (.beidouPolynomial, 7, "DELETE_BDS_SV_POLY_ALL"),
    (.galileoPolynomial, 8, "DELETE_GAL_SV_POLY_ALL"),
    (.qzssPolynomial, 9, "DELETE_QZSS_SV_POLY_ALL"),
    (.gpsIonosphere, 10, "DELETE_GPS_IONO_ALL"),
    (.glonassIonosphere, 11, "DELETE_GLO_IONO_ALL"),
    (.beidouIonosphere, 12, "DELETE_BDS_IONO_ALL"),
    (.galileoIonosphere, 13, "DELETE_GAL_IONO_ALL"),
    (.qzssIonosphere, 14, "DELETE_QZSS_IONO_ALL")]

/-- The coefficients of an ionospheric model. -/
structure NativeKlobucharModel where
  dataSource : SatelliteSystem := .unknown
  alpha : Vector Float32 4 := .replicate 4 0
  beta : Vector Float32 4 := .replicate 4 0

structure EventReportIndication where
  eventReport : Mask DeletionEvent := ∅
  gpsSystemTime : Option SystemTime := none
  ionosphere : Option NativeKlobucharModel := none
  leapSeconds : Option UInt8 := none
  tauC : Option Float := none

inductive SystemInfoClass where
  | nextLeapSecondInfo | other
  deriving DecidableEq

instance : Enumeration SystemInfoClass where
  names := [
    (.nextLeapSecondInfo, "NextLeapSecondInfo"),
    (.other, "Other")]

structure NextLeapSecond where
  currentTime : Option GpsTime := none
  currentLeapSeconds : Option UInt8 := none
  nextEventTime : Option GpsTime := none
  nextLeapSeconds : Option UInt8 := none

structure SystemInfoIndication where
  systemInfo : SystemInfoClass
  nextLeapSecondInfo : Option NextLeapSecond

structure WwanPositionReply where
  status : Verdict := .success
  latitude : Option Float := none
  longitude : Option Float := none
  circularUncertainty : Option Float32 := none
  circularConfidence : Option UInt8 := none
  altitude : Option Float32 := none
  verticalUncertainty : Option Float32 := none
  timestampUtcMs : Option UInt64 := none

structure BestAvailableReply where
  status : Verdict := .success
  latitude : Option Float := none
  longitude : Option Float := none
  circularUncertainty : Option Float32 := none
  circularConfidence : Option UInt8 := none
  altitude : Option Float32 := none
  verticalUncertainty : Option Float32 := none
  speed : Option Float32 := none
  speedUncertainty : Option Float32 := none
  heading : Option Float32 := none
  headingUncertainty : Option Float32 := none
  technologies : Option (Mask NativeTechnology) := none
  spoofMask : Option UInt32 := none
  timestampUtcMs : Option UInt64 := none

inductive Indication where
  | position (content : PositionIndication)
  | unpropagatedPosition (content : PositionIndication)
  | satelliteInfo (content : SatelliteInfoIndication)
  | engineState (content : EngineState)
  | fixSessionState (content : FixSessionState)
  | nmea (content : NmeaIndication)
  | predictedOrbitsRequest (content : PredictedOrbitsIndication)
  | timeRequest
  | positionRequest
  | niRequest (content : NiRequest)
  | connectionRequest (content : ServerConnectionIndication)
  | measurement (content : MeasurementFragment)
  | polynomial (content : OrbitPolynomial)
  | ephemeris (content : EphemerisIndication)
  | blacklist (content : BlacklistReply)
  | constellations (content : ConstellationReply)
  | wifiRequest (content : WifiIndication)
  | eventReport (content : EventReportIndication)
  | systemInfo (content : SystemInfoIndication)

/-- An indication without its content. -/
inductive IndicationKind where
  | position | unpropagatedPosition | satelliteInfo | engineState | fixSessionState | nmea
  | predictedOrbitsRequest | timeRequest | positionRequest | niRequest | connectionRequest
  | measurement | polynomial | ephemeris | blacklist | constellations | wifiRequest
  | eventReport | systemInfo
  deriving DecidableEq

instance : Enumeration IndicationKind where
  names := [
    (.position, "Position"),
    (.unpropagatedPosition, "UnpropagatedPosition"),
    (.satelliteInfo, "SvInfo"),
    (.engineState, "EngineState"),
    (.fixSessionState, "FixSessionState"),
    (.nmea, "Nmea"),
    (.predictedOrbitsRequest, "InjectPredictedOrbitsReq"),
    (.timeRequest, "InjectTimeReq"),
    (.positionRequest, "InjectPositionReq"),
    (.niRequest, "NiNotifyVerifyReq"),
    (.connectionRequest, "LocationServerConnectionReq"),
    (.measurement, "GnssMeasurement"),
    (.polynomial, "SvPolynomial"),
    (.ephemeris, "Ephemeris"),
    (.blacklist, "GetBlacklistSv"),
    (.constellations, "GetConstellationControl"),
    (.wifiRequest, "WifiReq"),
    (.eventReport, "EventReport"),
    (.systemInfo, "SystemInfo")]

/-- The late reply to a position query that nobody waits for. -/
inductive PositionReply where
  | wwanPosition (content : WwanPositionReply)
  | bestAvailablePosition (content : BestAvailableReply)

/-- What the transport delivers on its own. -/
inductive TransportEvent where
  | indication (content : Indication)
  | response (content : PositionReply)
  | error (content : ServiceError)

end GnssAdapter
