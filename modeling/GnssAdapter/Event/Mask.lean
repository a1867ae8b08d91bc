import GnssAdapter.Flag

/-!
The two vocabularies of event subscription: what the location engine asks for, and what is
registered with the remote engine.
-/

namespace GnssAdapter

/-- An event in the vocabulary of the location engine. -/
inductive AdapterEvent where
  | positionReport | unpropagatedPositionReport | satelliteReport | nmeaPositionReport
  | nmea1hzReport | niRequest | assistanceDataRequest | positionRequest
  | statusReport | locationServerRequest | wifiRequest | sensorStatus | timeSyncRequest
  | spiReport | niGeofence | geofenceAlert | geofenceBreach | batchedGeofenceBreach
  | pedometerControl | geofenceDwell | motionControl | wifiAccessPointRequest
  | batchFull | batchStatus | batchedPositionReport
  | measurementReport | polynomialReport | ephemerisReport
  | gdtUploadBegin | gdtUploadEnd | measurement | timeZoneRequest | srnAccessPointRequest
  | fdclService | bsObservationService | systemInfo | eventReport | nhzMeasurement
  deriving DecidableEq

instance : Flag AdapterEvent where
  width := 64
  layout := [
    (.positionReport, 0, "POSITION_REPORT"),
    (.unpropagatedPositionReport, 1, "UNPROPAGATED_POSITION_REPORT"),
    (.satelliteReport, 2, "SATELLITE_REPORT"),
    (.nmeaPositionReport, 3, "NMEA_POSITION_REPORT"),
    (.nmea1hzReport, 4, "NMEA_1HZ_REPORT"),
    (.niRequest, 5, "NI_NOTIFY_VERIFY_REQUEST"),
    (.assistanceDataRequest, 6, "ASSISTANCE_DATA_REQUEST"),
    (.positionRequest, 7, "POSITION_INJECTION_REQUEST"),
    (.statusReport, 8, "STATUS_REPORT"),
    (.locationServerRequest, 9, "LOCATION_SERVER_REQUEST"),
    (.wifiRequest, 10, "REQUEST_WIFI"),
    (.sensorStatus, 11, "SENSOR_STATUS"),
    (.timeSyncRequest, 12, "REQUEST_TIME_SYNC"),
    (.spiReport, 13, "REPORT_SPI"),
    (.niGeofence, 14, "REPORT_NI_GEOFENCE"),
    (.geofenceAlert, 15, "GEOFENCE_GEN_ALERT"),
    (.geofenceBreach, 16, "GEOFENCE_BREACH"),
    (.batchedGeofenceBreach, 17, "BATCHED_GEOFENCE_BREACH"),
    (.pedometerControl, 18, "PEDOMETER_CTRL"),
    (.geofenceDwell, 19, "GEOFENCE_DWELL"),
    (.motionControl, 20, "MOTION_CTRL"),
    (.wifiAccessPointRequest, 21, "REQUEST_WIFI_AP_DATA"),
    (.batchFull, 22, "BATCH_FULL"),
    (.batchStatus, 23, "BATCH_STATUS"),
    (.batchedPositionReport, 24, "BATCHED_POSITION_REPORT"),
    (.measurementReport, 25, "GNSS_MEASUREMENT_REPORT"),
    (.polynomialReport, 26, "SV_POLYNOMIAL_REPORT"),
    (.ephemerisReport, 27, "SV_EPHEMERIS_REPORT"),
    (.gdtUploadBegin, 28, "GDT_UPLOAD_BEGIN_REQ"),
    (.gdtUploadEnd, 29, "GDT_UPLOAD_END_REQ"),
    (.measurement, 30, "GNSS_MEASUREMENT"),
    (.timeZoneRequest, 31, "REQUEST_TIMEZONE"),
    (.srnAccessPointRequest, 32, "REQUEST_SRN_DATA"),
    (.fdclService, 33, "FDCL_SERVICE_REQ"),
    (.bsObservationService, 34, "BS_OBS_DATA_SERVICE_REQ"),
    (.systemInfo, 35, "LOC_SYSTEM_INFO"),
    (.eventReport, 36, "EVENT_REPORT_INFO"),
    (.nhzMeasurement, 37, "GNSS_NHZ_MEASUREMENT")]

/-- An event in the vocabulary of the remote engine. -/
inductive NativeEvent where
  | positionReport | satelliteInfo | nmea | niRequest | timeRequest
  | predictedOrbitsRequest | positionRequest | engineState | fixSessionState | wifiRequest
  | sensorReadiness | timeSyncRequest | spiReport
  | connectionRequest | niGeofence | geofenceAlert
  | geofenceBreach | pedometerControl | motionControl | batchFull
  | batchedPositionReport | wifiAccessPointRequest | geofenceBatchBreach
  | measurementReport | polynomialReport | gdtUploadBegin | gdtUploadEnd
  | geofenceBatchDwell | timeZoneRequest | batchStatus | srnAccessPointRequest
  | fdclService | unpropagatedPositionReport | bsObservationService | ephemerisReport
  | leapSecondReport | nhzMeasurementReport | eventReport
  deriving DecidableEq

instance : Flag NativeEvent where
  width := 64
  layout := [
    (.positionReport, 0, "POSITION_REPORT"),
    (.satelliteInfo, 1, "GNSS_SV_INFO"),
    (.nmea, 2, "NMEA"),
    (.niRequest, 3, "NI_NOTIFY_VERIFY_REQ"),
    (.timeRequest, 4, "INJECT_TIME_REQ"),
    (.predictedOrbitsRequest, 5, "INJECT_PREDICTED_ORBITS_REQ"),
    (.positionRequest, 6, "INJECT_POSITION_REQ"),
    (.engineState, 7, "ENGINE_STATE"),
    (.fixSessionState, 8, "FIX_SESSION_STATE"),
    (.wifiRequest, 9, "WIFI_REQ"),
    (.sensorReadiness, 10, "SENSOR_STREAMING_READY_STATUS"),
    (.timeSyncRequest, 11, "TIME_SYNC_REQ"),
    (.spiReport, 12, "SET_SPI_STREAMING_REPORT"),
    (.connectionRequest, 13, "LOCATION_SERVER_CONNECTION_REQ"),
    (.niGeofence, 14, "NI_GEOFENCE_NOTIFICATION"),
    (.geofenceAlert, 15, "GEOFENCE_GEN_ALERT"),
    (.geofenceBreach, 16, "GEOFENCE_BREACH_NOTIFICATION"),
    (.pedometerControl, 17, "PEDOMETER_CONTROL"),
    (.motionControl, 18, "MOTION_DATA_CONTROL"),
    (.batchFull, 19, "BATCH_FULL_NOTIFICATION"),
    (.batchedPositionReport, 20, "LIVE_BATCHED_POSITION_REPORT"),
    (.wifiAccessPointRequest, 21, "INJECT_WIFI_AP_DATA_REQ"),
    (.geofenceBatchBreach, 22, "GEOFENCE_BATCH_BREACH_NOTIFICATION"),
    (.measurementReport, 24, "GNSS_MEASUREMENT_REPORT"),
    (.polynomialReport, 25, "GNSS_SV_POLYNOMIAL_REPORT"),
    (.gdtUploadBegin, 27, "GDT_UPLOAD_BEGIN_REQ"),
    (.gdtUploadEnd, 28, "GDT_UPLOAD_END_REQ"),
    (.geofenceBatchDwell, 29, "GEOFENCE_BATCH_DWELL_NOTIFICATION"),
    (.timeZoneRequest, 30, "GET_TIME_ZONE_REQ"),
    (.batchStatus, 31, "BATCHING_STATUS"),
    (.srnAccessPointRequest, 33, "INJECT_SRN_AP_DATA_REQ"),
    (.fdclService, 35, "FDCL_SERVICE_REQ"),
    (.unpropagatedPositionReport, 38, "UNPROPAGATED_POSITION_REPORT"),
    (.bsObservationService, 39, "BS_OBS_DATA_SERVICE_REQ"),
    (.ephemerisReport, 40, "EPHEMERIS_REPORT"),
    (.leapSecondReport, 41, "NEXT_LS_INFO_REPORT"),
    (.nhzMeasurementReport, 43, "GNSS_NHZ_MEASUREMENT_REPORT"),
    (.eventReport, 44, "GNSS_EVENT_REPORT")]

end GnssAdapter
