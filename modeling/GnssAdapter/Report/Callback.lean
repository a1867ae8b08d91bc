import GnssAdapter.Report.Visibility
import GnssAdapter.Report.Measurement
import GnssAdapter.Report.Ephemeris
import GnssAdapter.Report.System
import GnssAdapter.Aiding.Data
import GnssAdapter.Network.Apn
import GnssAdapter.Network.Notification
import GnssAdapter.Network.DataCall

/-!
What the adapter tells the location engine.
-/

namespace GnssAdapter

inductive Callback where
  | position (report : PositionReport)
  /-- Jammer data of a position that had no usable fix. -/
  | jammer (data : JammerData) (msInWeek : Int32)
  | visibility (report : VisibilityReport)
  | rawSet (set : RawSet)
  | processedEpoch (epoch : ProcessedEpoch) (msInWeek : Int32)
  | polynomial (polynomial : OrbitPolynomial)
  | ephemeris (report : EphemerisReport)
  | nmea (sentence : String)
  | status (status : EngineStatus)
  /-- Servers to download predicted orbits from. -/
  | orbitServers (urls : List String)
  | requestOrbits
  | requestTime
  | requestLocation
  | aidingDataDeleted (data : AidingData)
  | ionosphere (model : KlobucharModel)
  | additionalSystemInfo (info : AdditionalSystemInfo)
  | systemInfo (info : LocationSystemInfo)
  /-- A notification together with the request that an answer has to quote. -/
  | niNotify (notification : NiNotification) (request : NiRequest)
  | openDataCall (connection : UInt32) (purpose : AgpsType) (apnTypes : Mask ApnType)
  | closeDataCall (connection : UInt32)
  | onDemandPosition (request : OdcpiRequest)
  | blacklist (blacklist : SatelliteBlacklist)
  | constellations (config : ConstellationConfig)
  | wwanFix (location : Location)
  | bestAvailableFix (location : Location) (extended : LocationExtended)
      (technologies : Mask Technology)
  | energyConsumed (sinceFirstBoot : UInt64)
  /-- The remote service is gone, and the connection with it. -/
  | engineDown
  /-- Negotiation has finished; the capabilities can be read. -/
  | featuresKnown

end GnssAdapter
