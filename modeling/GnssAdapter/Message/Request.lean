import GnssAdapter.Gnss.Time
import GnssAdapter.Network.Apn
import GnssAdapter.Network.Notification
import GnssAdapter.Report.System
import GnssAdapter.Session.Criteria
import GnssAdapter.Setting.Value

/-!
Requests to the remote engine, one alternative per message.
-/

namespace GnssAdapter

/-- The messages that the adapter sends or asks about. -/
inductive MessageId where
  | registerMasterClient | setOperationMode | start | stop | injectTime | injectPosition
  | deleteServiceData | deleteAssistData | answerNi | setServer | injectPredictedOrbits
  | getPredictedOrbitsSource | informConnectionStatus | setProtocol | setNmeaTypes
  | setSensorProperties | setSensorControl | setEngineLock | getEngineLock | setXtraCheck
  | injectCertificate | deleteCertificate | setReportSubscription | constrainTimeUncertainty
  | setPositionAssistedClock | queryEnergyConsumed | getWwanPosition | getBestAvailablePosition
  | setBlacklist | getBlacklist | setConstellations | getConstellations | queryAlwaysOn
  | getSupportedFeatures | notifyWifi | getBatchSize | batchedGeofenceBreach | startDistanceTracking
  deriving DecidableEq

instance : Enumeration MessageId where
  names := [
    (.registerMasterClient, "RegisterMasterClient"),
    (.setOperationMode, "SetOperationMode"),
    (.start, "Start"),
    (.stop, "Stop"),
    (.injectTime, "InjectUtcTime"),
    (.injectPosition, "InjectPosition"),
    (.deleteServiceData, "DeleteGnssServiceData"),
    (.deleteAssistData, "DeleteAssistData"),
    (.answerNi, "NiUserResponse"),
    (.setServer, "SetServer"),
    (.injectPredictedOrbits, "InjectPredictedOrbitsData"),
    (.getPredictedOrbitsSource, "GetPredictedOrbitsDataSource"),
    (.informConnectionStatus, "InformLocationServerConnStatus"),
    (.setProtocol, "SetProtocolConfigParameters"),
    (.setNmeaTypes, "SetNmeaTypes"),
    (.setSensorProperties, "SetSensorProperties"),
    (.setSensorControl, "SetSensorPerformanceControlConfig"),
    (.setEngineLock, "SetEngineLock"),
    (.getEngineLock, "GetEngineLock"),
    (.setXtraCheck, "SetXtraVersionCheck"),
    (.injectCertificate, "InjectSuplCertificate"),
    (.deleteCertificate, "DeleteSuplCertificate"),
    (.setReportSubscription, "SetGnssConstellReportConfig"),
    (.constrainTimeUncertainty, "SetConstrainedTuncMode"),
    (.setPositionAssistedClock, "EnablePositionAssistedClockEst"),
    (.queryEnergyConsumed, "QueryGnssEnergyConsumed"),
    (.getWwanPosition, "GetAvailWwanPosition"),
    (.getBestAvailablePosition, "GetBestAvailablePosition"),
    (.setBlacklist, "SetBlacklistSv"),
    (.getBlacklist, "GetBlacklistSv"),
    (.setConstellations, "SetConstellationControl"),
    (.getConstellations, "GetConstellationControl"),
    (.queryAlwaysOn, "QueryAonConfig"),
    (.getSupportedFeatures, "GetSupportedFeature"),
    (.notifyWifi, "NotifyWifiStatus"),
    (.getBatchSize, "GetBatchSize"),
    (.batchedGeofenceBreach, "GeofenceBatchedBreachInd"),
    (.startDistanceTracking, "StartDbt")]

/-- How the engine computes positions. -/
inductive OperationMode where
  | standalone | msb | msa | cellId | wwan
  deriving DecidableEq

instance : Enumeration OperationMode where
  names := [
    (.standalone, "Standalone"),
    (.msb, "Msb"),
    (.msa, "Msa"),
    (.cellId, "CellId"),
    (.wwan, "Wwan")]

inductive AccuracyLevel where
  | low | med | high
  deriving DecidableEq

instance : Enumeration AccuracyLevel where
  names := [
    (.low, "Low"),
    (.med, "Med"),
    (.high, "High")]

/-- A power mode in the words of the remote engine. -/
inductive NativePowerMode where
  | improvedAccuracy | normal | backgroundDefinedPower | backgroundDefinedTime
  | backgroundKeepWarm
  deriving DecidableEq

instance : Enumeration NativePowerMode where
  names := [
    (.improvedAccuracy, "ImprovedAccuracy"),
    (.normal, "Normal"),
    (.backgroundDefinedPower, "BackgroundDefinedPower"),
    (.backgroundDefinedTime, "BackgroundDefinedTime"),
    (.backgroundKeepWarm, "BackgroundKeepWarm")]

structure NativePowerSetting where
  mode : NativePowerMode
  timeBetweenMeasurementsMs : UInt32

structure ApplicationIdentity where
  name : String
  provider : String

structure StartRequest where
  sessionId : UInt8
  minIntervalMs : UInt32
  horizontalAccuracy : AccuracyLevel
  positionReportTimeoutMs : Option UInt32
  recurrence : Recurrence
  sharePosition : Bool
  applicationId : Option ApplicationIdentity
  altitudeAssumedInSatelliteInfo : Bool
  powerMode : Option NativePowerSetting

structure TimeInjection where
  timeUtcMs : UInt64
  timeUncertaintyMs : UInt32

inductive PositionSource where
  | gnss | cellId | enhancedCellId | wifi | terrestrial | gnssTerrestrialHybrid | other | dre
  deriving DecidableEq

instance : Enumeration PositionSource where
  names := [
    (.gnss, "Gnss"),
    (.cellId, "Cellid"),
    (.enhancedCellId, "EnhancedCellid"),
    (.wifi, "Wifi"),
    (.terrestrial, "Terrestrial"),
    (.gnssTerrestrialHybrid, "GnssTerrestrialHybrid"),
    (.other, "Other"),
    (.dre, "Dre")]

/-- A coarse position for the engine to start from. -/
structure PositionInjection where
  timestampUtcMs : Option UInt64 := none
  latitude : Option Float := none
  longitude : Option Float := none
  circularUncertainty : Option Float32 := none
  horizontalConfidence : Option UInt8 := none
  rawCircularUncertainty : Option Float32 := none
  rawHorizontalConfidence : Option UInt8 := none
  altitude : Option Float32 := none
  verticalUncertainty : Option Float32 := none
  verticalConfidence : Option UInt8 := none
  onDemandCpi : Option Bool := none
  gpsTime : Option GpsTime := none
  velocity : Option (Vector Float32 3) := none
  velocityUncertainty : Option (Vector Float32 3) := none
  timeUncertaintyMs : Option Float32 := none
  satellitesInFix : Option UInt8 := none
  source : Option PositionSource := none

/-- Satellite data in the words of the service-data deletion. -/
inductive DeletedSatelliteData where
  | ephemeris | almanac | health | direction | steer | almanacCorr | blacklist | saData | noExist
  | ionosphere | time | mbData
  deriving DecidableEq

instance : Flag DeletedSatelliteData where
  width := 32
  layout := [
    (.ephemeris, 0, "EPHEMERIS"),
    (.almanac, 1, "ALMANAC"),
    (.health, 2, "SVHEALTH"),
    (.direction, 3, "SVDIR"),
    (.steer, 4, "SVSTEER"),
    (.almanacCorr, 5, "ALM_CORR"),
    (.blacklist, 6, "BLACKLIST"),
    (.saData, 7, "SA_DATA"),
    (.noExist, 8, "SV_NO_EXIST"),
    (.ionosphere, 9, "IONO"),
    (.time, 10, "TIME"),
    (.mbData, 11, "MB_DATA")]

/-- Common data in the words of the service-data deletion. -/
inductive DeletedCommonData where
  | position | time | utc | rti | frequencyBias
  deriving DecidableEq

instance : Flag DeletedCommonData where
  width := 32
  layout := [
    (.position, 0, "POS"),
    (.time, 1, "TIME"),
    (.utc, 2, "UTC"),
    (.rti, 3, "RTI"),
    (.frequencyBias, 4, "FREQ_BIAS_EST")]

/-- A kind of entry in the cell database. -/
inductive DeletedCellData where
  | position | latestGpsPosition | otaPosition | externalPosition | timeTag
  | cellId | cachedCellId | lastServingCell | currentServingCell | neighborInfo
  deriving DecidableEq

instance : Flag DeletedCellData where
  width := 32
  layout := [
    (.position, 0, "POS"),
    (.latestGpsPosition, 1, "LATEST_GPS_POS"),
    (.otaPosition, 2, "OTA_POS"),
    (.externalPosition, 3, "EXT_REF_POS"),
    (.timeTag, 4, "TIMETAG"),
    (.cellId, 5, "CELLID"),
    (.cachedCellId, 6, "CACHED_CELLID"),
    (.lastServingCell, 7, "LAST_SRV_CELL"),
    (.currentServingCell, 8, "CUR_SRV_CELL"),
    (.neighborInfo, 9, "NEIGHBOR_INFO")]

/-- Common and GPS data in the words of the assistance-data deletion. -/
inductive DeletedGnssData where
  | gpsDirection | gpsSteer | gpsTime | gpsAlmanacCorr
  | glonassDirection | glonassSteer | glonassTime | glonassAlmanacCorr
  | saData | position | time | ionosphere | utc | health | rti
  deriving DecidableEq

instance : Flag DeletedGnssData where
  width := 64
  layout := [
    (.gpsDirection, 0, "GPS_SVDIR"),
    (.gpsSteer, 1, "GPS_SVSTEER"),
    (.gpsTime, 2, "GPS_TIME"),
    (.gpsAlmanacCorr, 3, "GPS_ALM_CORR"),
    (.glonassDirection, 4, "GLO_SVDIR"),
    (.glonassSteer, 5, "GLO_SVSTEER"),
    (.glonassTime, 6, "GLO_TIME"),
    (.glonassAlmanacCorr, 7, "GLO_ALM_CORR"),
    (.saData, 8, "SADATA"),
    (.position, 9, "POSITION"),
    (.time, 10, "TIME"),
    (.ionosphere, 11, "IONO"),
    (.utc, 12, "UTC"),
    (.health, 13, "HEALTH"),
    (.rti, 14, "RTI")]

/-- Data of a single satellite in the words of the assistance-data deletion. -/
inductive DeletedSvInfo where
  | ephemeris | almanac
  deriving DecidableEq

instance : Flag DeletedSvInfo where
  width := 8
  layout := [
    (.ephemeris, 0, "EPHEMERIS"),
    (.almanac, 1, "ALMANAC")]

/-- A constellation that reports are subscribed for and data is deleted for. -/
inductive ReportConstellation where
  | gps | glonass | bds | galileo | qzss
  deriving DecidableEq

instance : Flag ReportConstellation where
  width := 64
  layout := [
    (.gps, 0, "GPS"),
    (.glonass, 1, "GLONASS"),
    (.bds, 2, "BDS"),
    (.galileo, 3, "GALILEO"),
    (.qzss, 4, "QZSS")]

structure SatelliteDataDeletion where
  system : Mask ReportConstellation
  dataMask : Mask DeletedSatelliteData

structure ServiceDataDeletion where
  deleteAll : Bool := false
  satelliteData : Option SatelliteDataDeletion := none
  commonData : Option (Mask DeletedCommonData) := none
  cellData : Option (Mask DeletedCellData) := none

structure SatelliteDeletion where
  satelliteId : UInt16
  system : SatelliteSystem
  mask : Mask DeletedSvInfo

structure AssistDataDeletion where
  deleteAll : Bool := false
  info : List SatelliteDeletion := []
  gnssData : Option (Mask DeletedGnssData) := none
  cellData : Option (Mask DeletedCellData) := none

inductive NiUserResponse where
  | accept | deny | noResponse
  deriving DecidableEq

instance : Enumeration NiUserResponse where
  names := [
    (.accept, "Accept"),
    (.deny, "Deny"),
    (.noResponse, "NoResponse")]

/-- A kind of location server in the words of the remote engine. -/
inductive NativeServerKind where
  | cdmaPde | cdmaMpc | umtsSlp | customPde | customSlp
  deriving DecidableEq

instance : Enumeration NativeServerKind where
  names := [
    (.cdmaPde, "CdmaPde"),
    (.cdmaMpc, "CdmaMpc"),
    (.umtsSlp, "UmtsSlp"),
    (.customPde, "CustomPde"),
    (.customSlp, "CustomSlp")]

structure Ipv4Address where
  address : UInt32
  port : UInt16

inductive ServerAddress where
  | url (value : String)
  | ipv4 (content : Ipv4Address)

structure ServerSetting where
  serverType : NativeServerKind
  address : ServerAddress

/-- The address family of an access point. -/
inductive PdnType where
  | ipv4 | ipv6 | ipv4v6
  deriving DecidableEq

instance : Enumeration PdnType where
  names := [
    (.ipv4, "Ipv4"),
    (.ipv6, "Ipv6"),
    (.ipv4v6, "Ipv4v6")]

structure NativeApnProfile where
  pdnType : PdnType
  apnName : String

/-- What became of a data call that the engine wanted. -/
structure DataCallStatus where
  connection : UInt32
  isOpen : Bool
  success : Bool
  apnProfile : Option NativeApnProfile
  apnTypes : Option (Mask NativeApnType)

/-- A SUPL version in the words of the remote engine. -/
inductive NativeSuplVersion where
  | v1_0 | v2_0 | v2_0_2
  deriving DecidableEq

instance : Enumeration NativeSuplVersion where
  names := [
    (.v1_0, "V1_0"),
    (.v2_0, "V2_0"),
    (.v2_0_2, "V2_0_2")]

/-- Protocol settings; the engine keeps those that are left out. -/
structure ProtocolSetting where
  suplVersion : Option NativeSuplVersion := none
  lppPlanes : Option (Mask LppPlane) := none
  assistedGlonassProtocol : Option (Mask AGlonassProtocol) := none
  lppeControlPlane : Option (Mask LppeCapability) := none
  lppeUserPlane : Option (Mask LppeCapability) := none

structure SensorControlSetting where
  controlMode : Option Int32
  accelSampling : SensorSampling
  gyroSampling : SensorSampling
  accelSamplingHigh : SensorSampling
  gyroSamplingHigh : SensorSampling
  algorithmSetting : Int32

/-- Which positioning is locked: mobile-initiated, mobile-terminated, or both. -/
inductive EngineLock where
  | none | mi | mt | all
  deriving DecidableEq

instance : Enumeration EngineLock where
  names := [
    (.none, "None"),
    (.mi, "Mi"),
    (.mt, "Mt"),
    (.all, "All")]

inductive LockSubscription where
  | dds | all
  deriving DecidableEq

instance : Enumeration LockSubscription where
  names := [
    (.dds, "Dds"),
    (.all, "All")]

inductive NativeXtraCheck where
  | disable | auto | xtra2 | xtra3
  deriving DecidableEq

instance : Enumeration NativeXtraCheck where
  names := [
    (.disable, "Disable"),
    (.auto, "Auto"),
    (.xtra2, "Xtra2"),
    (.xtra3, "Xtra3")]

/-- Which constellations measurements and polynomials are reported for, and which databases are
reported as a whole. -/
structure ReportSubscription where
  measurementReport : Option (Mask ReportConstellation) := none
  polynomials : Option (Mask ReportConstellation) := none
  fullPolynomials : Bool := false
  fullEphemerides : Bool := false
  fullIonosphere : Bool := false

structure TimeUncertaintyConstraint where
  enabled : Bool := false
  uncertainty : Option Float32 := none
  energyBudget : Option UInt32 := none

/-- Satellites to put on the blacklist and satellites to take off it, a bit for each. -/
structure BlacklistSetting where
  glonassBlacklist : UInt64 := 0
  glonassClear : UInt64 := 0
  bdsBlacklist : UInt64 := 0
  bdsClear : UInt64 := 0
  qzssBlacklist : UInt64 := 0
  qzssClear : UInt64 := 0
  galileoBlacklist : UInt64 := 0
  galileoClear : UInt64 := 0

structure ConstellationSetting where
  reset : Bool := false
  enableMask : Option (Mask ControlledConstellation) := none
  disableMask : Option (Mask ControlledConstellation) := none

structure NiAnswer where
  response : NiUserResponse
  request : NiRequest

structure OrbitsPart where
  totalSize : UInt32
  totalParts : UInt16
  partNum : UInt16
  data : ByteArray

structure LockSetting where
  lock : EngineLock
  subType : LockSubscription

structure CertificateInjection where
  slot : UInt8
  data : ByteArray

inductive Request where
  | registerMasterClient (key : UInt32)
  | setOperationMode (content : OperationMode)
  | start (content : StartRequest)
  | stop (sessionId : UInt8)
  | injectTime (content : TimeInjection)
  | injectPosition (content : PositionInjection)
  | deleteServiceData (content : ServiceDataDeletion)
  | deleteAssistData (content : AssistDataDeletion)
  | answerNi (content : NiAnswer)
  | setServer (content : ServerSetting)
  | injectPredictedOrbits (content : OrbitsPart)
  | getPredictedOrbitsSource
  | informConnectionStatus (content : DataCallStatus)
  | setProtocol (content : ProtocolSetting)
  | setNmeaTypes (sentenceTypes : UInt32)
  | setSensorProperties (content : SensorProperties)
  | setSensorControl (content : SensorControlSetting)
  | setEngineLock (content : LockSetting)
  | getEngineLock (subType : LockSubscription)
  | setXtraCheck (content : NativeXtraCheck)
  | injectCertificate (content : CertificateInjection)
  | deleteCertificate (slot : UInt8)
  | setReportSubscription (content : ReportSubscription)
  | constrainTimeUncertainty (content : TimeUncertaintyConstraint)
  | setPositionAssistedClock (enabled : Bool)
  | queryEnergyConsumed
  | getWwanPosition
  | getBestAvailablePosition
  | setBlacklist (content : BlacklistSetting)
  | getBlacklist
  | setConstellations (content : ConstellationSetting)
  | getConstellations
  | queryAlwaysOn (transactionId : UInt32)
  | getSupportedFeatures
  | notifyWifi (available : Bool)

end GnssAdapter
