import GnssAdapter.Aiding.Data
import GnssAdapter.Message.Request

/-!
The two requests that delete aiding data: the deletion of service data, and the older deletion of
assistance data, which knows GPS only.
-/

namespace GnssAdapter

/-- The service data of a kind; polynomials are not among them. -/
def AidingSatelliteData.service : AidingSatelliteData → List DeletedSatelliteData
  | .ephemeris => [.ephemeris]
  | .almanac => [.almanac]
  | .health => [.health]
  | .direction => [.direction]
  | .steer => [.steer]
  | .almanacCorr => [.almanacCorr]
  | .blacklist => [.blacklist]
  | .saData => [.saData]
  | .noExist => [.noExist]
  | .ionosphere => [.ionosphere]
  | .time => [.time]
  | .mbData => [.mbData]
  | .poly => []

def AidingConstellation.service : AidingConstellation → ReportConstellation
  | .gps => .gps
  | .glonass => .glonass
  | .qzss => .qzss
  | .beidou => .bds
  | .galileo => .galileo

/-- The common data of a kind; the cell database is deleted apart. -/
def AidingCommonData.service : AidingCommonData → List DeletedCommonData
  | .position => [.position]
  | .time => [.time]
  | .utc => [.utc]
  | .rti => [.rti]
  | .frequencyBias => [.frequencyBias]
  | .cellDatabase => []

/-- What the older deletion knows of the data of GPS as a whole. -/
def AidingSatelliteData.assist : AidingSatelliteData → List DeletedGnssData
  | .ionosphere => [.ionosphere]
  | .health => [.health]
  | .direction => [.gpsDirection]
  | .saData => [.saData]
  | _ => []

/-- What the older deletion knows of the data of single satellites. -/
def AidingSatelliteData.perSatellite : AidingSatelliteData → List DeletedSvInfo
  | .ephemeris => [.ephemeris]
  | .almanac => [.almanac]
  | _ => []

/-- What the older deletion knows of the common data. -/
def AidingCommonData.assist : AidingCommonData → List DeletedGnssData
  | .position => [.position]
  | .time => [.time]
  | .utc => [.utc]
  | .rti => [.rti]
  | .frequencyBias | .cellDatabase => []

namespace AidingData

/-- The whole cell database, if it is to be deleted. -/
def cellDatabase? (data : AidingData) : Option (Mask DeletedCellData) :=
  if data.commonData.has .cellDatabase then some (.full DeletedCellData) else none

/-- The deletion of service data; without satellite data its constellations are left out. -/
def serviceDeletion (data : AidingData) : ServiceDataDeletion :=
  if data.deleteAll then { deleteAll := true }
  else
    { satelliteData := (data.satelliteData.translate AidingSatelliteData.service).nonempty?.map
        fun dataMask =>
          { system := data.constellations.translate fun constellation => [constellation.service]
            dataMask }
      commonData := (data.commonData.translate AidingCommonData.service).nonempty?
      cellData := data.cellDatabase? }

/-- The numbers of the GPS satellites. -/
def gpsSatellites : List UInt16 :=
  (List.range 32).map fun index => UInt16.ofNat (index + 1)

/-- Every GPS satellite with the data to delete for it. -/
def satelliteDeletions (data : AidingData) : List SatelliteDeletion :=
  match (data.satelliteData.translate AidingSatelliteData.perSatellite).nonempty? with
  | some mask => gpsSatellites.map fun satelliteId => { satelliteId, system := .gps, mask }
  | none => []

/-- The older deletion of assistance data; satellite data counts only if GPS is selected. -/
def assistDeletion (data : AidingData) : AssistDataDeletion :=
  let gps := data.constellations.has .gps
  let common := data.commonData.translate AidingCommonData.assist
  let satellite := data.satelliteData.translate AidingSatelliteData.assist
  if data.deleteAll then { deleteAll := true }
  else
    { info := if gps then data.satelliteDeletions else []
      gnssData := (if gps then common ∪ satellite else common).nonempty?
      cellData := data.cellDatabase? }

end AidingData

end GnssAdapter
