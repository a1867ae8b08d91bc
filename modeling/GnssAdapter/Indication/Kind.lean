import GnssAdapter.Message.Indication

/-!
The kinds of indications and the labels under which they are counted.
-/

namespace GnssAdapter

def Indication.kind : Indication → IndicationKind
  | .position _ => .position
  | .unpropagatedPosition _ => .unpropagatedPosition
  | .satelliteInfo _ => .satelliteInfo
  | .engineState _ => .engineState
  | .fixSessionState _ => .fixSessionState
  | .nmea _ => .nmea
  | .predictedOrbitsRequest _ => .predictedOrbitsRequest
  | .timeRequest => .timeRequest
  | .positionRequest => .positionRequest
  | .niRequest _ => .niRequest
  | .connectionRequest _ => .connectionRequest
  | .measurement _ => .measurement
  | .polynomial _ => .polynomial
  | .ephemeris _ => .ephemeris
  | .blacklist _ => .blacklist
  | .constellations _ => .constellations
  | .wifiRequest _ => .wifiRequest
  | .eventReport _ => .eventReport
  | .systemInfo _ => .systemInfo

def IndicationKind.label : IndicationKind → String
  | .position => "position"
  | .unpropagatedPosition => "unpropagated_position"
  | .satelliteInfo => "sv_info"
  | .engineState => "engine_state"
  | .fixSessionState => "fix_session_state"
  | .nmea => "nmea"
  | .predictedOrbitsRequest => "inject_predicted_orbits_req"
  | .timeRequest => "inject_time_req"
  | .positionRequest => "inject_position_req"
  | .niRequest => "ni_notify_verify_req"
  | .connectionRequest => "location_server_connection_req"
  | .measurement => "gnss_measurement"
  | .polynomial => "sv_polynomial"
  | .ephemeris => "ephemeris"
  | .blacklist => "get_blacklist_sv"
  | .constellations => "get_constellation_control"
  | .wifiRequest => "wifi_req"
  | .eventReport => "event_report"
  | .systemInfo => "system_info"

end GnssAdapter
