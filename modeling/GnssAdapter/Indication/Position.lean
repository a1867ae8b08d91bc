import GnssAdapter.Epoch.Processed
import GnssAdapter.Report.Accuracy
import GnssAdapter.Report.Callback

/-!
Position indications as position reports.
-/

namespace GnssAdapter

namespace PositionIndication

/-- Jammer data per band; the aggregate at the front is passed over. -/
def jammerData (indication : PositionIndication) : JammerData where
  signals := (indication.jammerIndicators.getD []).drop 1 |>.map fun jammer =>
    { agcDb := jammerMetric? jammer.agcMetric, jammerDb := jammerMetric? jammer.jammerMetric }

/-- The uncertainty that the accuracy is made of: the circular one, else the diagonal of the
ellipse. -/
def uncertainty? (indication : PositionIndication) : Option Float32 :=
  match indication.circularUncertainty, indication.ellipseSemiMinor,
    indication.ellipseSemiMajor with
  | some circular, _, _ => some circular
  | none, some minor, some major => some (minor * minor + major * major).sqrt
  | none, _, _ => none

/-- Horizontal accuracy at 68 percent, if the confidence of the uncertainty is known. -/
def accuracy? (indication : PositionIndication) : Option Float32 :=
  indication.uncertainty?.map fun uncertainty =>
    match indication.horizontalConfidence with
    | some confidence => accuracyAt68 uncertainty confidence indication.circularUncertainty.isSome
    | none => uncertainty

def ellipse (indication : PositionIndication) : UncertaintyEllipse where
  semiMajor := indication.ellipseSemiMajor
  semiMinor := indication.ellipseSemiMinor
  azimuth := indication.ellipseAzimuth

end PositionIndication

/-- Standard deviations to the north and to the east of a complete ellipse. -/
def UncertaintyEllipse.deviations? (ellipse : UncertaintyEllipse) :
    Option (Float32 × Float32) := do
  let major := (← ellipse.semiMajor).toFloat
  let minor := (← ellipse.semiMinor).toFloat
  let azimuth := (← ellipse.azimuth).toFloat
  let sine := azimuth.sin
  let cosine := azimuth.cos
  let north := major * major * cosine * cosine + minor * minor * sine * sine
  let east := major * major * sine * sine + minor * minor * cosine * cosine
  some (north.sqrt.toFloat32, east.sqrt.toFloat32)

namespace SatelliteUsage

/-- The usage entry of a satellite number; the engine's own signal wins over the default. -/
def ofId (id : UInt16) (signal : Option (Mask Signal)) : SatelliteUsage :=
  let constellation := ((Constellation.ofPrn? id).map (·.1)).getD .unknown
  { constellation, satelliteId := id, signal := signal.getD constellation.defaultSignal }

end SatelliteUsage

namespace UsedSatellites

def markAll (ids : List UInt16) : UsedSatellites :=
  ids.foldl (fun used id => (used.mark id).1) {}

end UsedSatellites

namespace PositionIndication

/-- The satellites used, the expanded list first; an empty list counts as none. -/
def usedIds? (indication : PositionIndication) : Option (List UInt16) :=
  match indication.expandedUsedSatellites <|> indication.usedSatellites with
  | some [] | none => none
  | some ids => some ids

/-- One usage entry per satellite used, with the signal at the same index, if there is one. -/
def usage (indication : PositionIndication) : List SatelliteUsage :=
  (indication.usedIds?.getD []).zipIdx.map fun (id, index) =>
    .ofId id (indication.usedSignals.bind (·[index]?))

/-- The week and time of week as a system time without bias. -/
def systemTime? (indication : PositionIndication) : Option GnssTime :=
  indication.gpsTime.map fun time =>
    .gps
      { week := time.week
        weekMs := time.towMs
        clockTimeBiasMs := 0
        clockTimeUncertaintyMs := indication.timeUncertaintyMs.getD 0 }

def location (indication : PositionIndication) (coordinates : Coordinates)
    (unpropagated : Bool) : Location where
  coordinates := some coordinates
  altitude := indication.altitude.map Float32.toFloat
  speed := indication.speed
  bearing := indication.heading
  accuracy := indication.accuracy?
  verticalAccuracy := indication.verticalUncertainty
  timestampMs := indication.timestampUtcMs.getD 0
  source := .gnss
  spoofMask := indication.spoofMask
  unpropagated

def extended (indication : PositionIndication) (timestamp : ApTimestamp) : LocationExtended :=
  let deviations := indication.ellipse.deviations?
  { apTimestamp := some timestamp
    technologies := some (reportedTechnologies indication.technologies)
    magneticDeviation := indication.magneticDeviation
    dop := indication.dop
    extendedDop := indication.extendedDop
    altitudeMeanSeaLevel := indication.altitudeMeanSeaLevel
    verticalUncertainty := indication.verticalUncertainty
    speedUncertainty := indication.speedUncertainty
    bearingUncertainty := indication.headingUncertainty
    horizontalReliability := indication.horizontalReliability
    verticalReliability := indication.verticalReliability
    uncertaintyEllipse := indication.ellipse
    northStdDev := deviations.map (·.1)
    eastStdDev := deviations.map (·.2)
    usedSatellites := indication.usedIds?.map UsedSatellites.markAll
    satelliteUsage := indication.usage
    corrections := indication.corrections.map reportedCorrections
    gpsTime := indication.gpsTime
    velocity := indication.velocity.map Enu.ofVector
    velocityUncertainty := indication.velocityUncertainty.map Enu.ofVector
    systemTime := indication.systemTime?
    timeUncertaintyMs := indication.timeUncertaintyMs
    leapSeconds := indication.leapSeconds }

/-- The time of week of a report; jammer data supersedes it. -/
def msInWeek (indication : PositionIndication) (data : JammerData) : Int32 :=
  if data.signals.any fun signal => signal.agcDb.isSome || signal.jammerDb.isSome then -1
  else
    match indication.gpsTime with
    | some time => if time.towMs.toNat < Int32.size / 2 then Int32.ofNat time.towMs.toNat else 0
    | none => 0

/-- The report of a session that failed: nothing but its time and jammer data. -/
def failure (indication : PositionIndication) (timestamp : ApTimestamp) (unpropagated : Bool) :
    PositionReport where
  location := { unpropagated }
  extended := { apTimestamp := some timestamp }
  status := .failure
  technologies := ∅
  data := indication.jammerData
  msInWeek := indication.msInWeek indication.jammerData

/-- The status of a report, unless the session has failed. -/
def reportStatus? (indication : PositionIndication) : Option ReportStatus :=
  match indication.sessionStatus with
  | .success => some .success
  | .inProgress => some .intermediate
  | _ => none

/-- A position report, or the jammer data alone if a fix has no coordinates. -/
def callback (indication : PositionIndication) (timestamp : ApTimestamp) (unpropagated : Bool) :
    Callback :=
  let data := indication.jammerData
  let msInWeek := indication.msInWeek data
  match indication.reportStatus?, indication.latitude, indication.longitude with
  | none, _, _ => .position (indication.failure timestamp unpropagated)
  | some status, some latitude, some longitude =>
      .position
        { location := indication.location ⟨latitude, longitude⟩ unpropagated
          extended := indication.extended timestamp
          status
          technologies := reportedTechnologies indication.technologies
          data
          msInWeek }
  | some _, _, _ => .jammer data msInWeek

end PositionIndication

end GnssAdapter
