import GnssAdapter.Epoch.Raw
import GnssAdapter.Epoch.Tracking

/-!
Processed measurement epochs and the receiver clock.

An epoch is complete with the last fragment of a sequence, once a GPS fragment has given it a
clock. It is restarted only by a first fragment.
-/

namespace GnssAdapter

/-- Bookkeeping of clock discontinuities; it outlives an epoch. -/
structure ClockTracker where
  frameCount : UInt32 := 0
  clockResets : UInt32 := 0
  discontinuities : UInt32 := 0

/-- The epoch being assembled. -/
structure EpochBuffer where
  epoch : ProcessedEpoch := {}
  /-- A GPS fragment has given the epoch its clock. -/
  clockSeen : Bool := false
  msInWeek : Int32 := -1
  /-- Every measurement came with a gain level. -/
  gainPresent : Bool := false
  tracker : ClockTracker := {}

/-- A jammer metric in dB, unless it is not available. -/
def jammerMetric? (hundredths : Int32) : Option Float :=
  if hundredths = noJammerMetric then none else some (hundredths.toFloat / 100)

namespace FragmentMeasurement

/-- The measurement was made in this epoch, and its status says so validly. -/
def isFresh (native : FragmentMeasurement) : Bool :=
  native.validStatus.has .freshMeas && native.status.has .freshMeas

/-- The processed form of a measurement. -/
def processed (native : FragmentMeasurement) (fragment : MeasurementFragment) :
    ProcessedMeasurement :=
  let satellite := native.satellite fragment.system
  let glonassTimeKnown :=
    satellite.constellation = .glonass && fragment.glonassTime.any GlonassTime.isKnown
  let tracking := Tracking.ofMeasurement satellite native glonassTimeKnown
  let fine := native.status.has .velocityFine
  let rate := if fine then native.fineSpeed.getD 0 else native.timeSpeed.dopplerShift
  let rateUncertainty :=
    if fine then native.fineSpeedUncertainty.getD 0 else native.timeSpeed.dopplerShiftUncertainty
  let signal := fragment.signal.getD satellite.constellation.defaultSignal
  { constellation := satellite.constellation
    satelliteId := satellite.id
    timeOffsetNs := 0
    state := tracking.state
    receivedSatelliteTimeNs := tracking.timeNs
    receivedSatelliteTimeUncertaintyNs := tracking.uncertaintyNs
    cn0Dbhz := native.cno.toFloat / 10
    pseudorangeRateMps := rate.toFloat
    pseudorangeRateUncertaintyMps := rateUncertainty.toFloat
    carrierFrequencyHz := some (Signal.carrierOf signal satellite.channel)
    multipath := .unknown
    agcLevelDb := fragment.jammerIndicator.bind fun jammer => jammerMetric? jammer.agcMetric }

end FragmentMeasurement

namespace ClockTracker

/-- A discontinuity is a new session, a changed count of resets, or a frame count that does not
grow; at full power the engine keeps its own continuity. -/
def observe (tracker : ClockTracker) (frameCount clockResets : UInt32)
    (newSession fullPower : Bool) : ClockTracker where
  frameCount
  clockResets
  discontinuities :=
    if (newSession || clockResets != tracker.clockResets || frameCount ≤ tracker.frameCount) &&
        !fullPower then
      tracker.discontinuities + 1
    else tracker.discontinuities

end ClockTracker

namespace ReceiverClock

/-- Uncertainty of the clock bias, in ms, above which GPS time is not trusted. -/
def greatestUncertaintyMs : Float32 := 16

/-- Meters per second to nanoseconds per second. -/
def driftScale : Float := 1.0e9 / 299792458.0

/-- The clock's offset from GPS time: whole nanoseconds and a fraction of one. -/
def setBias (clock : ReceiverClock) (time : SystemTime) : ReceiverClock :=
  if time.week != 65535 && time.clockTimeUncertaintyMs ≤ greatestUncertaintyMs then
    let biasNs := time.clockTimeBiasMs.toFloat * 1e6
    let totalMs := Int64.ofNat time.week.toNat * Int64.ofNat weekMs + Int64.ofNat time.weekMs.toNat
    let gpsTimeNs := totalMs * 1000000 - biasNs.toInt64
    { clock with
      fullBiasNs := some (clock.timeNs - gpsTimeNs)
      biasNs := some (biasNs - biasNs.toInt64.toFloat)
      biasUncertaintyNs := some (time.clockTimeUncertaintyMs.toFloat * 1e6) }
  else clock

def setDrift (clock : ReceiverClock) (frequency : ClockFrequency) : ReceiverClock :=
  { clock with
    driftNsps := some (frequency.clockDrift.toFloat * driftScale)
    driftUncertaintyNsps := some (frequency.clockDriftUncertainty.toFloat * driftScale) }

end ReceiverClock

/-- The time of week as a signed number; -1 if it has none. -/
def SystemTime.msInWeek (time : SystemTime) : Int32 :=
  if time.weekMs.toNat < Int32.size / 2 then Int32.ofNat time.weekMs.toNat else -1

namespace EpochBuffer

/-- An epoch has room for so many measurements; the rest is dropped. -/
def capacity : Nat := 64

/-- A new epoch; the bookkeeping of discontinuities stays. -/
def restart (buffer : EpochBuffer) : EpochBuffer :=
  { tracker := buffer.tracker }

def push (fragment : MeasurementFragment) (buffer : EpochBuffer) (native : FragmentMeasurement) :
    EpochBuffer :=
  if buffer.epoch.measurements.length < capacity && native.isFresh then
    { buffer with
      epoch := { buffer.epoch with
        measurements := buffer.epoch.measurements ++ [native.processed fragment] }
      gainPresent := buffer.gainPresent && fragment.jammerIndicator.isSome }
  else buffer

/-- Adds the measurements of a fragment; the overflow list only continues a list that is there. -/
def pushAll (buffer : EpochBuffer) (fragment : MeasurementFragment) : EpochBuffer :=
  match fragment.measurements.getD [] with
  | [] => buffer
  | primary =>
      let buffer :=
        if buffer.epoch.measurements.isEmpty then { buffer with gainPresent := true } else buffer
      (primary ++ fragment.overflowMeasurements.getD []).foldl (push fragment) buffer

/-- Takes the clock of the epoch from a GPS fragment. -/
def setClock (buffer : EpochBuffer) (fragment : MeasurementFragment)
    (newSession fullPower : Bool) : EpochBuffer :=
  let timed :=
    match fragment.frameTime, fragment.clockResets with
    | some frame, some resets =>
        let tracker := buffer.tracker.observe frame.frameCount resets newSession fullPower
        let clock :=
          { buffer.epoch.clock with
            timeNs := Int64.ofNat frame.frameCount.toNat * 1000000
            timeUncertaintyNs := 0
            discontinuities := tracker.discontinuities }
        { buffer with
          tracker
          epoch := { buffer.epoch with
            clock := (fragment.systemTime.map clock.setBias).getD clock }
          msInWeek := (fragment.systemTime.map SystemTime.msInWeek).getD (-1) }
    | _, _ => { buffer with msInWeek := -1 }
  let clock := timed.epoch.clock
  { timed with
    clockSeen := true
    epoch := { timed.epoch with
      clock := (fragment.receiverClockFrequency.map clock.setDrift).getD clock } }

/-- The time of week to report; gain levels of the measurements supersede it. -/
def reportedMs (buffer : EpochBuffer) : Int32 :=
  if buffer.gainPresent then -1 else buffer.msInWeek

/-- The fragment gives the epoch its clock. -/
def takesClock (buffer : EpochBuffer) (fragment : MeasurementFragment) : Bool :=
  fragment.system = .gps && !buffer.clockSeen

/-- What one fragment leads to. -/
structure Step where
  buffer : EpochBuffer
  /-- The fragment has given the epoch its clock. -/
  clockTaken : Bool
  finished : Option (ProcessedEpoch × Int32)

/-- Merges a fragment whose number lies within its sequence. The epoch stays in the buffer when it
is reported. -/
def add (buffer : EpochBuffer) (fragment : MeasurementFragment) (newSession fullPower : Bool) :
    Step :=
  if fragment.sequenceLength < fragment.sequenceNumber then ⟨buffer, false, none⟩
  else
    let buffer := if fragment.sequenceNumber = 1 then buffer.restart else buffer
    let buffer := buffer.pushAll fragment
    let clockTaken := buffer.takesClock fragment
    let buffer := if clockTaken then buffer.setClock fragment newSession fullPower else buffer
    let finished :=
      if fragment.isLast && !buffer.epoch.measurements.isEmpty && buffer.clockSeen then
        some (buffer.epoch, buffer.reportedMs)
      else none
    ⟨buffer, clockTaken, finished⟩

end EpochBuffer

end GnssAdapter
