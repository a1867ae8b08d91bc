import GnssAdapter.Gnss.Time

/-!
Satellite orbits as the location engine receives them.
-/

namespace GnssAdapter

/-- Whether an ephemeris is new or deleted, and where that comes from. -/
inductive EphemerisAction where
  | updateSrcUnknown | updateSrcOta | updateSrcNetwork | deleteSrcUnknown | deleteSrcNetwork
  | deleteSrcOta
  deriving DecidableEq

instance : Enumeration EphemerisAction where
  names := [
    (.updateSrcUnknown, "UpdateSrcUnknown"),
    (.updateSrcOta, "UpdateSrcOta"),
    (.updateSrcNetwork, "UpdateSrcNetwork"),
    (.deleteSrcUnknown, "DeleteSrcUnknown"),
    (.deleteSrcNetwork, "DeleteSrcNetwork"),
    (.deleteSrcOta, "DeleteSrcOta")]

/-- The orbit of a satellite in the form that GPS broadcasts it. -/
structure KeplerElements where
  satelliteId : UInt16 := 0
  action : EphemerisAction := .updateSrcUnknown
  iode : UInt16 := 0
  aSqrt : Float := 0
  deltaN : Float := 0
  m0 : Float := 0
  eccentricity : Float := 0
  omega0 : Float := 0
  i0 : Float := 0
  omega : Float := 0
  omegaDot : Float := 0
  iDot : Float := 0
  cUc : Float := 0
  cUs : Float := 0
  cRc : Float := 0
  cRs : Float := 0
  cIc : Float := 0
  cIs : Float := 0
  toe : UInt32 := 0
  toc : UInt32 := 0
  af0 : Float := 0
  af1 : Float := 0
  af2 : Float := 0

/-- QZSS has these too. -/
structure GpsEphemeris where
  common : KeplerElements := {}
  signalHealth : UInt8 := 0
  urai : UInt8 := 0
  codeL2 : UInt8 := 0
  dataFlagL2p : UInt8 := 0
  tgd : Float := 0
  fitInterval : UInt8 := 0
  iodc : UInt16 := 0

structure GlonassEphemeris where
  satelliteId : UInt16 := 0
  action : EphemerisAction := .updateSrcUnknown
  bnHealth : UInt8 := 0
  lnHealth : UInt8 := 0
  tb : UInt8 := 0
  ft : UInt8 := 0
  glonassM : UInt8 := 0
  enAge : UInt8 := 0
  glonassFrequency : UInt8 := 0
  p1 : UInt8 := 0
  p2 : UInt8 := 0
  deltaTau : Float32 := 0
  position : Vector Float 3 := .replicate 3 0
  velocity : Vector Float 3 := .replicate 3 0
  acceleration : Vector Float 3 := .replicate 3 0
  tauN : Float32 := 0
  gamma : Float := 0
  toe : Float := 0
  nt : UInt16 := 0

structure BdsEphemeris where
  common : KeplerElements := {}
  satelliteHealth : UInt8 := 0
  aodc : UInt8 := 0
  tgd1 : Float := 0
  tgd2 : Float := 0
  urai : UInt8 := 0

/-- The signal that an ephemeris was decoded from. -/
inductive GalileoSignalSource where
  | unknown | e1b | e5a | e5b
  deriving DecidableEq

instance : Enumeration GalileoSignalSource where
  names := [
    (.unknown, "Unknown"),
    (.e1b, "E1b"),
    (.e5a, "E5a"),
    (.e5b, "E5b")]

structure GalileoEphemeris where
  common : KeplerElements := {}
  dataSourceSignal : GalileoSignalSource := .unknown
  sisIndex : UInt8 := 0
  bgdE1E5a : Float := 0
  bgdE1E5b : Float := 0
  satelliteHealth : UInt8 := 0

/-- The ephemerides of one constellation. -/
inductive EphemerisData where
  | gps (items : List GpsEphemeris)
  | glonass (items : List GlonassEphemeris)
  | bds (items : List BdsEphemeris)
  | galileo (items : List GalileoEphemeris)
  | qzss (items : List GpsEphemeris)

structure EphemerisReport where
  /-- When the report was made, in GPS time. -/
  systemTime : Option SystemTime
  data : EphemerisData

end GnssAdapter
