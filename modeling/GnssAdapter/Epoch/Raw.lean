import GnssAdapter.Message.Indication
import GnssAdapter.Report.Measurement

/-!
Raw measurement sets.

A measurement epoch arrives as a sequence of fragments, one per constellation and signal. They are
merged into one set, which is complete when the last fragment of the sequence arrives. A first
fragment or a changed frame count starts a new set.
-/

namespace GnssAdapter

/-- The set being assembled and the frame count of its fragments. -/
structure RawBuffer where
  frameCount : UInt32 := 0
  set : RawSet := {}

namespace MeasurementFragment

/-- The frame count; zero if the fragment carries none. -/
def frame (fragment : MeasurementFragment) : UInt32 :=
  (fragment.frameTime.map FrameTime.frameCount).getD 0

def isLast (fragment : MeasurementFragment) : Bool :=
  fragment.sequenceNumber == fragment.sequenceLength

end MeasurementFragment

namespace FragmentMeasurement

/-- The measurement was made in this epoch and names its satellite. -/
def isUsable (native : FragmentMeasurement) : Bool :=
  native.satelliteId != 0 && native.status.has .freshMeas

/-- The raw entry of a measurement, with the system and signal of its fragment. -/
def raw (native : FragmentMeasurement) (fragment : MeasurementFragment)
    (carrierPhaseUncertainty : Option Float32) : RawMeasurement where
  system := fragment.system
  signal := fragment.signal
  satelliteId := native.satelliteId
  glonassFrequency := native.glonassFrequency
  lossOfLock := native.lossOfLock
  satelliteStatus := native.satelliteStatus
  healthStatus := native.healthStatus
  satelliteInfoMask := native.satelliteInfoMask
  cno := native.cno
  glonassRfLoss := native.glonassRfLoss
  measurementLatency := native.measurementLatency
  timeSpeed := native.timeSpeed
  status := native.status
  validStatus := native.validStatus
  extras :=
    { multipathEstimate := native.multipathEstimate
      fineSpeed := native.fineSpeed
      fineSpeedUncertainty := native.fineSpeedUncertainty
      carrierPhase := native.carrierPhase
      carrierPhaseUncertainty
      elevation := native.satelliteElevation
      azimuth := native.satelliteAzimuth
      cycleSlipCount := native.cycleSlipCount }

end FragmentMeasurement

/-- The biases of the first, those that it lacks taken from the second. -/
def SystemBiases.orElse (first second : SystemBiases) : SystemBiases where
  gpsGlonass := first.gpsGlonass <|> second.gpsGlonass
  gpsBds := first.gpsBds <|> second.gpsBds
  gpsGalileo := first.gpsGalileo <|> second.gpsGalileo
  bdsGlonass := first.bdsGlonass <|> second.bdsGlonass
  galileoGlonass := first.galileoGlonass <|> second.galileoGlonass
  galileoBds := first.galileoBds <|> second.galileoBds
  galileoE1E5a := first.galileoE1E5a <|> second.galileoE1E5a
  gpsL1L5 := first.gpsL1L5 <|> second.gpsL1L5

/-- The system time with every part that a fragment carries replaced by the fragment's. -/
def EpochSystemTime.merge (time : EpochSystemTime) (fragment : MeasurementFragment) :
    EpochSystemTime where
  time := fragment.systemTime <|> time.time
  frameCount := fragment.frameTime.map FrameTime.frameCount <|> time.frameCount
  clockResets := fragment.clockResets <|> time.clockResets

namespace RawHeader

/-- The header with the system time of one constellation merged; BeiDou has two tags. -/
def mergeSystemTime (header : RawHeader) (fragment : MeasurementFragment) : RawHeader :=
  match fragment.system with
  | .gps => { header with gpsTime := header.gpsTime.merge fragment }
  | .galileo => { header with galileoTime := header.galileoTime.merge fragment }
  | .bds | .compass => { header with bdsTime := header.bdsTime.merge fragment }
  | .qzss => { header with qzssTime := header.qzssTime.merge fragment }
  | .sbas | .glonass | .unknown => header

/-- The leap seconds of a fragment, trusted only without uncertainty. -/
def trustedLeapSeconds (fragment : MeasurementFragment) : Option UInt8 :=
  fragment.leapSecond.bind fun leap =>
    if leap.uncertainty = 0 then some leap.leapSeconds else none

/-- The GLONASS time of a fragment, taken as a whole. -/
def glonassTimeOf (fragment : MeasurementFragment) : Option EpochGlonassTime :=
  fragment.glonassTime.map fun time =>
    { time := some time
      frameCount := fragment.frameTime.map FrameTime.frameCount
      clockResets := fragment.clockResets }

def merge (header : RawHeader) (fragment : MeasurementFragment) : RawHeader :=
  { header.mergeSystemTime fragment with
    clockFrequency := fragment.receiverClockFrequency <|> header.clockFrequency
    leapSeconds := trustedLeapSeconds fragment <|> header.leapSeconds
    biases := fragment.biases.orElse header.biases
    glonassTime := (glonassTimeOf fragment).getD header.glonassTime
    rtcMs := fragment.frameTime.bind FrameTime.rtcMs <|> header.rtcMs }

end RawHeader

namespace RawSet

/-- A set has room for so many satellites; the rest is dropped. -/
def capacity : Nat := 128

/-- The carrier phase uncertainty of the measurement at an index; the two lists line up only if
they are equally long. -/
def phaseUncertainty? (fragment : MeasurementFragment) (measurements : List FragmentMeasurement)
    (index : Nat) : Option Float32 :=
  fragment.carrierPhaseUncertainty.bind fun uncertainties =>
    if uncertainties.length = measurements.length then uncertainties[index]? else none

/-- The usable measurements of a fragment as raw entries, in order. -/
def entries (fragment : MeasurementFragment) : List RawMeasurement :=
  let measurements := fragment.measurements.getD []
  measurements.zipIdx.filterMap fun (native, index) =>
    if native.isUsable then
      some (native.raw fragment (phaseUncertainty? fragment measurements index))
    else none

def merge (set : RawSet) (fragment : MeasurementFragment) : RawSet :=
  { set with
    header := set.header.merge fragment
    measurements := (set.measurements ++ entries fragment).take capacity }

/-- The set with the time at which it was handed on. -/
def stamp (set : RawSet) (timestamp : ApTimestamp) : RawSet :=
  { set with header := { set.header with apTimestamp := some timestamp } }

end RawSet

namespace RawBuffer

/-- A new set for a first fragment or a changed frame count, which means that the first fragment
was lost. -/
def prepare (buffer : RawBuffer) (fragment : MeasurementFragment) : RawBuffer :=
  if fragment.sequenceNumber = 1 ∨ fragment.frame ≠ buffer.frameCount then
    ⟨fragment.frame, { isNhz := fragment.isNhz.getD false }⟩
  else buffer

/-- Merges a fragment; the last of a sequence takes the finished set out of the buffer. A fragment
of an unknown system can start a set but adds nothing to it. -/
def add (buffer : RawBuffer) (fragment : MeasurementFragment) : RawBuffer × Option RawSet :=
  let buffer := buffer.prepare fragment
  if fragment.system = .unknown then (buffer, none)
  else
    let set := buffer.set.merge fragment
    if fragment.isLast then ({ buffer with set := {} }, some set)
    else ({ buffer with set }, none)

end RawBuffer

end GnssAdapter
