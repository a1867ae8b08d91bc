import GnssAdapter.Gnss.Epoch
import GnssAdapter.Gnss.Satellite
import GnssAdapter.Message.Indication
import GnssAdapter.Number.Binary
import GnssAdapter.Report.Measurement

/-!
Tracking states of processed measurements: how far a receiver is in step with a satellite's signal,
and the satellite time that this allows it to tell.
-/

namespace GnssAdapter

/-- Constellation, number and frequency channel of a measured satellite. -/
structure MeasuredSatellite where
  constellation : Constellation
  id : UInt16
  channel : UInt8

/-- The place of a number in a range that starts at one; zero below the range. The greatest number
shares the place of the one before it. -/
def placeAbove (id first : UInt16) : UInt16 :=
  lowered (if id = 65535 then id else id + 1) first

namespace FragmentMeasurement

/-- The satellite of a measurement. A GLONASS satellite known only by its frequency channel is
numbered by the channel. -/
def satellite (native : FragmentMeasurement) : SatelliteSystem → MeasuredSatellite
  | .gps => ⟨.gps, native.satelliteId, 0⟩
  | .galileo => ⟨.galileo, placeAbove native.satelliteId PrnRange.galileo.first, 0⟩
  | .sbas => ⟨.sbas, native.satelliteId, 0⟩
  | .glonass =>
      let id :=
        if native.satelliteId = 255 then native.glonassFrequency.toUInt16 + 92
        else placeAbove native.satelliteId PrnRange.glonass.first
      ⟨.glonass, id, native.glonassFrequency⟩
  | .bds | .compass => ⟨.beidou, placeAbove native.satelliteId PrnRange.beidou.first, 0⟩
  | .qzss => ⟨.qzss, native.satelliteId, 0⟩
  | .unknown => ⟨.unknown, native.satelliteId, 0⟩

end FragmentMeasurement

/-- Tracking state, received satellite time and its uncertainty, both in ns. -/
structure Tracking where
  state : Mask TrackingState := ∅
  timeNs : Int64 := 0
  uncertaintyNs : Int64 := 0

namespace Tracking

/-- A BeiDou satellite in a geostationary orbit, which broadcasts the second message format. -/
def isGeostationary (satellite : MeasuredSatellite) : Bool :=
  satellite.constellation = .beidou && 1 ≤ satellite.id && satellite.id ≤ 5

/-- The Galileo locks, which join whatever level is reached. -/
def galileoLocks (satellite : MeasuredSatellite) (status : Mask MeasurementStatus) :
    Mask TrackingState :=
  if satellite.constellation = .galileo then
    .ofList ([.galE1bcCodeLock] ++ (if status.has .gal100ms then [.galE1c2ndCodeLock] else []) ++
      (if status.has .gal2s then [.galE1bPageSync] else []))
  else ∅

/-- The state of a satellite whose time is known to the millisecond. -/
def decodedState (satellite : MeasuredSatellite) (glonassTimeKnown : Bool) :
    Mask TrackingState :=
  .ofList ([.subframeSync, .towDecoded, .bitSync, .codeLock] ++
    (if glonassTimeKnown then [.gloStringSync, .gloTodDecoded] else []) ++
    (if isGeostationary satellite then [.bdsD2BitSync, .bdsD2SubframeSync] else []))

/-- The highest level of synchronisation that is valid decides: time to the millisecond, then the
bit edges (time within 20 ms), then the code (time within 1 ms), then nothing. -/
def ofMeasurement (satellite : MeasuredSatellite) (native : FragmentMeasurement)
    (glonassTimeKnown : Bool) : Tracking :=
  let valid := native.status ∩ native.validStatus
  let time := native.timeSpeed
  let uncertaintyNs := (time.satelliteTimeUncertaintyMs.toFloat * 1e6).toInt64
  let timeMs := time.satelliteTimeMs.toFloat + time.satelliteTimeSubMs.toFloat
  let galileo := galileoLocks satellite native.status
  if valid.has .msValid then
    ⟨decodedState satellite glonassTimeKnown ∪ galileo, (timeMs * 1e6).toInt64, uncertaintyNs⟩
  else if valid.has .beConfirm && valid.has .sbValid then
    ⟨.ofList [.bitSync, .codeLock] ∪ galileo, (Number.remainder timeMs 20 * 1e6).toInt64,
      uncertaintyNs⟩
  else if valid.has .smValid then
    ⟨.ofList [.codeLock] ∪ galileo, (time.satelliteTimeSubMs.toFloat * 1e6).toInt64,
      uncertaintyNs⟩
  else {}

end Tracking

end GnssAdapter
