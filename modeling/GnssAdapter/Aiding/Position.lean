import GnssAdapter.Gnss.Epoch
import GnssAdapter.Message.Request
import GnssAdapter.Number.Binary
import GnssAdapter.Report.Accuracy

/-!
Positions as they are injected into the engine.
-/

namespace GnssAdapter

/-- Three components that are all known. -/
def components? (east north up : Option Float32) : Option (Vector Float32 3) := do
  let east ← east
  let north ← north
  let up ← up
  some #v[east, north, up]

namespace PositionInjection

/-- Injected positions never claim a better accuracy than this, in meters. -/
def leastAccuracyM : Float32 := 1000

/-- The confidence of injected uncertainties, in percent. -/
def confidence : UInt8 := 68

/-- The injection of a location; the accuracy is sent raw too, and a time of zero is unknown. -/
def ofLocation (location : Location) (onDemand : Bool) : PositionInjection where
  timestampUtcMs := if location.timestampMs = 0 then none else some location.timestampMs
  latitude := location.coordinates.map Coordinates.latitude
  longitude := location.coordinates.map Coordinates.longitude
  circularUncertainty := location.accuracy.map (Number.larger32 · leastAccuracyM)
  horizontalConfidence := location.accuracy.map fun _ => confidence
  rawCircularUncertainty := location.accuracy
  rawHorizontalConfidence := location.accuracy.map fun _ => confidence
  altitude := location.altitude.map Float.toFloat32
  verticalUncertainty := location.verticalAccuracy
  verticalConfidence := location.verticalAccuracy.map fun _ => confidence
  onDemandCpi := if onDemand then some true else none

/-- The injection of a location with what else is known; dead reckoning is tagged as the source. -/
def ofInfo (info : LocationInfo) (onDemand : Bool) : PositionInjection :=
  { ofLocation info.location onDemand with
    gpsTime := info.systemTime.bind (·.toGps? info.leapSeconds)
    velocity := components? info.eastVelocity info.northVelocity info.upVelocity
    velocityUncertainty :=
      components? info.eastVelocityStdDev info.northVelocityStdDev info.upVelocityStdDev
    timeUncertaintyMs := info.timeUncertaintyMs
    satellitesInFix := info.usedSatellites.map UsedSatellites.count
    source := if info.technologies.has .sensors then some .dre else none }

end PositionInjection

end GnssAdapter
