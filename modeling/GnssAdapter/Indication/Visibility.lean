import GnssAdapter.Gnss.Satellite
import GnssAdapter.Message.Indication
import GnssAdapter.Report.Visibility

/-!
Satellite visibility indications as visibility reports.

The signal list is indexed by reported satellite, so entries that are not reported take no signal.
-/

namespace GnssAdapter

/-- A satellite to be reported: its system and number are known. -/
structure SightedSatellite where
  system : SatelliteSystem
  id : UInt16
  info : SatelliteInfo
  channel : UInt8

namespace SatelliteInfo

/-- An entry is reported if it names its system and a number other than zero. -/
def sighted? (info : SatelliteInfo) (channel : UInt8) : Option SightedSatellite :=
  match info.system, info.satelliteId with
  | some system, some id => if id = 0 then none else some ⟨system, id, info, channel⟩
  | _, _ => none

/-- What the engine holds about a satellite, as report options. -/
def options (info : SatelliteInfo) : Mask VisibilityOption :=
  let held := info.satelliteInfoMask.getD ∅
  .ofList ((if held.has .hasEphemeris then [.hasEphemeris] else []) ++
    (if held.has .hasAlmanac then [.hasAlmanac] else []))

end SatelliteInfo

namespace SightedSatellite

/-- The satellite before a signal is attached. -/
def bare (satellite : SightedSatellite) : VisibleSatellite :=
  let (constellation, id) := satellite.system.visible satellite.id
  { satelliteId := id
    constellation
    cn0Dbhz := satellite.info.snr.getD 0
    elevation := satellite.info.elevation.getD 0
    azimuth := satellite.info.azimuth.getD 0
    options := satellite.info.options }

/-- The satellite with a carrier frequency. -/
def withCarrier (satellite : SightedSatellite) (frequency : Float32) : VisibleSatellite :=
  { satellite.bare with
    carrierFrequencyHz := frequency
    options := satellite.bare.options ∪ .single .hasCarrierFrequency }

/-- With a list of signals, the satellite takes the one at its index, unless that is empty or
missing; without one it takes the default signal's carrier. -/
def report (satellite : SightedSatellite) (signals : Option (List (Mask Signal)))
    (index : Nat) : VisibleSatellite :=
  match signals with
  | some signals =>
      match signals[index]?.bind Mask.nonempty? with
      | some signal =>
          { satellite.withCarrier (Signal.carrierOf signal satellite.channel) with signal }
      | none => satellite.bare
  | none =>
      satellite.withCarrier (Signal.carrierOf satellite.bare.constellation.defaultSignal 0)

end SightedSatellite

namespace SatelliteInfoIndication

/-- The entries with their frequency channels; the expanded list wins. -/
def entries (indication : SatelliteInfoIndication) : List (SatelliteInfo × UInt8) :=
  match indication.expandedSatellites, indication.satellites with
  | some expanded, _ => expanded.map fun entry => (entry.info, entry.glonassFrequency)
  | none, some plain => plain.map (·, 0)
  | none, none => []

def sighted (indication : SatelliteInfoIndication) : List SightedSatellite :=
  indication.entries.filterMap fun (info, channel) => info.sighted? channel

def report (indication : SatelliteInfoIndication) : VisibilityReport where
  signalTypeValid := indication.signals.isSome
  satellites := indication.sighted.zipIdx.map fun (satellite, index) =>
    satellite.report indication.signals index

end SatelliteInfoIndication

end GnssAdapter
