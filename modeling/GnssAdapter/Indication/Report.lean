import GnssAdapter.Indication.Connection
import GnssAdapter.Indication.Engine
import GnssAdapter.Indication.Ephemeris
import GnssAdapter.Indication.Visibility
import GnssAdapter.Network.Presentation

/-!
The callbacks of an indication that neither depends on the state of the adapter nor changes it, nor
is stamped with a time: all but engine states, measurement fragments and positions.
-/

namespace GnssAdapter

def FixSessionState.status : FixSessionState → EngineStatus
  | .started => .sessionBegin
  | .finished => .sessionEnd
  | .unknown => .none

/-- The expanded sentence wins; an empty one is dropped. -/
def NmeaIndication.callbacks (indication : NmeaIndication) : List Callback :=
  let sentence := indication.expandedNmea.getD indication.nmea
  if sentence.isEmpty then [] else [.nmea sentence]

/-- A request is shown together with itself, so that the answer can quote it. -/
def NiRequest.callbacks (request : NiRequest) : List Callback :=
  (request.notification?.map fun notification => .niNotify notification request).toList

/-- A polynomial is reported if it names its satellite. -/
def OrbitPolynomial.callbacks (polynomial : OrbitPolynomial) : List Callback :=
  if polynomial.satelliteId = 0 then [] else [.polynomial polynomial]

/-- The callbacks of an indication by itself. Those of positions need a clock, and those of engine
states and measurement fragments the state of the adapter; they are left to it. -/
def Indication.callbacks : Indication → List Callback
  | .satelliteInfo indication => [.visibility indication.report]
  | .fixSessionState state => [.status state.status]
  | .nmea indication => indication.callbacks
  | .predictedOrbitsRequest indication => indication.callbacks
  | .timeRequest => [.requestTime]
  | .positionRequest => [.requestLocation]
  | .niRequest request => request.callbacks
  | .connectionRequest indication => [indication.callback]
  | .polynomial orbit => orbit.callbacks
  | .ephemeris indication => [.ephemeris indication.report]
  | .blacklist reply => reply.callbacks
  | .constellations reply => reply.callbacks
  | .wifiRequest indication => indication.callbacks
  | .eventReport indication => indication.callbacks
  | .systemInfo indication => indication.callbacks
  | .position _ | .unpropagatedPosition _ | .engineState _ | .measurement _ => []

end GnssAdapter
