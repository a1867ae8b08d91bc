import GnssAdapter.Event.Mask

/-!
From the events that the location engine asks for to the events registered with the remote engine.

Each abstract event subscribes a fixed list of native events, so the mapping is a union over the
events of a mask. Outside a fix session the gated events are held back.
-/

namespace GnssAdapter

/-- The native events that one abstract event subscribes. A batched geofence breach has an event of
its own only where the engine supports it. -/
def AdapterEvent.subscribes (batchedBreach : Bool) : AdapterEvent → List NativeEvent
  | .positionReport => [.positionReport]
  | .unpropagatedPositionReport => [.unpropagatedPositionReport]
  | .satelliteReport => [.satelliteInfo]
  | .nmeaPositionReport => [.nmea]
  | .nmea1hzReport => [.nmea]
  | .niRequest => [.niRequest]
  | .assistanceDataRequest => [.predictedOrbitsRequest, .timeRequest]
  | .positionRequest => [.positionRequest]
  | .statusReport => [.engineState]
  | .locationServerRequest => [.connectionRequest]
  | .wifiRequest => [.wifiRequest]
  | .sensorStatus => [.sensorReadiness]
  | .timeSyncRequest => [.timeSyncRequest]
  | .spiReport => [.spiReport]
  | .niGeofence => [.niGeofence]
  | .geofenceAlert => [.geofenceAlert]
  | .geofenceBreach => [.geofenceBreach]
  | .batchedGeofenceBreach =>
      if batchedBreach then [.geofenceBatchBreach] else [.geofenceBreach]
  | .pedometerControl => [.pedometerControl]
  | .geofenceDwell => [.geofenceBatchDwell]
  | .motionControl => [.motionControl]
  | .wifiAccessPointRequest => [.wifiAccessPointRequest]
  | .batchFull => [.batchFull]
  | .batchStatus => [.batchStatus]
  | .batchedPositionReport => [.batchedPositionReport]
  | .measurementReport => [.measurementReport]
  | .polynomialReport => [.polynomialReport]
  | .ephemerisReport => [.ephemerisReport]
  | .gdtUploadBegin => [.gdtUploadBegin]
  | .gdtUploadEnd => [.gdtUploadEnd]
  | .measurement => [.measurementReport]
  | .timeZoneRequest => [.timeZoneRequest]
  | .srnAccessPointRequest => [.srnAccessPointRequest]
  | .fdclService => [.fdclService]
  | .bsObservationService => [.bsObservationService]
  | .systemInfo => [.leapSecondReport]
  | .eventReport => [.eventReport]
  | .nhzMeasurement => [.nhzMeasurementReport]

namespace NativeEvent

/-- The events held back while no fix session is active. -/
def sessionGated : Mask NativeEvent :=
  .ofList [.positionReport, .unpropagatedPositionReport, .satelliteInfo, .nmea, .engineState,
    .measurementReport, .polynomialReport, .ephemerisReport, .eventReport]

/-- The reports that are also subscribed per constellation. -/
def perConstellation : Mask NativeEvent :=
  .ofList [.measurementReport, .polynomialReport]

end NativeEvent

/-- The native events that a mask of abstract events subscribes. -/
def nativeEvents (mask : Mask AdapterEvent) (batchedBreach : Bool) : Mask NativeEvent :=
  mask.translate (AdapterEvent.subscribes batchedBreach)

/-- Drops the gated events while no fix session is active. -/
def gateEvents (native : Mask NativeEvent) (inSession : Bool) : Mask NativeEvent :=
  if inSession then native else native \ NativeEvent.sessionGated

/-- The native mask to register for a mask of abstract events. -/
def registrationMask (mask : Mask AdapterEvent) (inSession batchedBreach : Bool) :
    Mask NativeEvent :=
  gateEvents (nativeEvents mask batchedBreach) inSession

end GnssAdapter
