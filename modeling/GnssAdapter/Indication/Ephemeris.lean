import GnssAdapter.Message.Indication
import GnssAdapter.Report.Ephemeris

/-!
Ephemeris indications as ephemeris reports.
-/

namespace GnssAdapter

/-- The update action of a code; every other code is an update from an unknown source. -/
def EphemerisAction.ofCode (code : UInt8) : EphemerisAction :=
  match code.toNat with
  | 1 => .updateSrcOta
  | 2 => .updateSrcNetwork
  | 3 => .deleteSrcUnknown
  | 4 => .deleteSrcNetwork
  | 5 => .deleteSrcOta
  | _ => .updateSrcUnknown

def GalileoSignalSource.ofCode (code : UInt8) : GalileoSignalSource :=
  match code.toNat with
  | 1 => .e1b
  | 2 => .e5a
  | 3 => .e5b
  | _ => .unknown

def NativeKeplerElements.report (native : NativeKeplerElements) : KeplerElements where
  satelliteId := native.satelliteId
  action := .ofCode native.updateAction
  iode := native.iode
  aSqrt := native.aSqrt
  deltaN := native.deltaN
  m0 := native.m0
  eccentricity := native.eccentricity
  omega0 := native.omega0
  i0 := native.i0
  omega := native.omega
  omegaDot := native.omegaDot
  iDot := native.iDot
  cUc := native.cUc
  cUs := native.cUs
  cRc := native.cRc
  cRs := native.cRs
  cIc := native.cIc
  cIs := native.cIs
  toe := native.toe
  toc := native.toc
  af0 := native.af0
  af1 := native.af1
  af2 := native.af2

def NativeGpsEphemeris.report (native : NativeGpsEphemeris) : GpsEphemeris where
  common := native.common.report
  signalHealth := native.signalHealth
  urai := native.urai
  codeL2 := native.codeL2
  dataFlagL2p := native.dataFlagL2p
  tgd := native.tgd
  fitInterval := native.fitInterval
  iodc := native.iodc

def NativeGlonassEphemeris.report (native : NativeGlonassEphemeris) : GlonassEphemeris where
  satelliteId := native.satelliteId
  action := .ofCode native.updateAction
  bnHealth := native.bnHealth
  lnHealth := native.lnHealth
  tb := native.tb
  ft := native.ft
  glonassM := native.glonassM
  enAge := native.enAge
  glonassFrequency := native.glonassFrequency
  p1 := native.p1
  p2 := native.p2
  deltaTau := native.deltaTau
  position := native.position
  velocity := native.velocity
  acceleration := native.acceleration
  tauN := native.tauN
  gamma := native.gamma
  toe := native.toe
  nt := native.nt

def NativeBdsEphemeris.report (native : NativeBdsEphemeris) : BdsEphemeris where
  common := native.common.report
  satelliteHealth := native.satelliteHealth
  aodc := native.aodc
  tgd1 := native.tgd1
  tgd2 := native.tgd2
  urai := native.urai

def NativeGalileoEphemeris.report (native : NativeGalileoEphemeris) : GalileoEphemeris where
  common := native.common.report
  dataSourceSignal := .ofCode native.dataSourceSignal
  sisIndex := native.sisIndex
  bgdE1E5a := native.bgdE1E5a
  bgdE1E5b := native.bgdE1E5b
  satelliteHealth := native.satelliteHealth

def NativeEphemerisList.report : NativeEphemerisList → EphemerisData
  | .gps items => .gps (items.map NativeGpsEphemeris.report)
  | .glonass items => .glonass (items.map NativeGlonassEphemeris.report)
  | .bds items => .bds (items.map NativeBdsEphemeris.report)
  | .galileo items => .galileo (items.map NativeGalileoEphemeris.report)
  | .qzss items => .qzss (items.map NativeGpsEphemeris.report)

def EphemerisIndication.report (indication : EphemerisIndication) : EphemerisReport where
  systemTime := indication.gpsSystemTime
  data := indication.list.report

namespace EphemerisData

def system : EphemerisData → SatelliteSystem
  | .gps _ => .gps
  | .glonass _ => .glonass
  | .bds _ => .bds
  | .galileo _ => .galileo
  | .qzss _ => .qzss

def length : EphemerisData → Nat
  | .gps items | .qzss items => items.length
  | .glonass items => items.length
  | .bds items => items.length
  | .galileo items => items.length

def isEmpty (data : EphemerisData) : Bool :=
  data.length == 0

end EphemerisData

end GnssAdapter
