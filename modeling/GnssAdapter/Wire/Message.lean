import GnssAdapter.Wire.Report
import GnssAdapter.Wire.Network
import GnssAdapter.Wire.Setting
import GnssAdapter.Message.Handle
import GnssAdapter.Message.Indication
import GnssAdapter.Capability.Store

/-!
Written forms of requests, answers and indications.
-/

namespace GnssAdapter

instance : Codec NativePowerSetting := .record <| NativePowerSetting.mk
  <$> field "mode" (·.mode)
  <*> field "time_between_measurements_ms" (·.timeBetweenMeasurementsMs)

instance : Codec ApplicationIdentity := .record <| ApplicationIdentity.mk
  <$> field "name" (·.name)
  <*> field "provider" (·.provider)

instance : Codec StartRequest := .record <| StartRequest.mk
  <$> field "session_id" (·.sessionId)
  <*> field "min_interval_ms" (·.minIntervalMs)
  <*> field "horizontal_accuracy" (·.horizontalAccuracy)
  <*> field "position_report_timeout_ms" (·.positionReportTimeoutMs)
  <*> field "recurrence" (·.recurrence)
  <*> field "share_position" (·.sharePosition)
  <*> field "application_id" (·.applicationId)
  <*> field "altitude_assumed_in_sv_info" (·.altitudeAssumedInSatelliteInfo)
  <*> field "power_mode" (·.powerMode)

instance : Codec TimeInjection := .record <| TimeInjection.mk
  <$> field "time_utc_ms" (·.timeUtcMs)
  <*> field "time_unc_ms" (·.timeUncertaintyMs)

instance : Codec PositionInjection := .record <| PositionInjection.mk
  <$> field "timestamp_utc_ms" (·.timestampUtcMs)
  <*> field "latitude" (·.latitude)
  <*> field "longitude" (·.longitude)
  <*> field "hor_unc_circular" (·.circularUncertainty)
  <*> field "hor_confidence" (·.horizontalConfidence)
  <*> field "raw_hor_unc_circular" (·.rawCircularUncertainty)
  <*> field "raw_hor_confidence" (·.rawHorizontalConfidence)
  <*> field "altitude_wrt_ellipsoid" (·.altitude)
  <*> field "vert_unc" (·.verticalUncertainty)
  <*> field "vert_confidence" (·.verticalConfidence)
  <*> field "on_demand_cpi" (·.onDemandCpi)
  <*> field "gps_time" (·.gpsTime)
  <*> field "vel_enu" (·.velocity)
  <*> field "vel_unc_enu" (·.velocityUncertainty)
  <*> field "time_unc_ms" (·.timeUncertaintyMs)
  <*> field "num_sv_in_fix" (·.satellitesInFix)
  <*> field "position_src" (·.source)

instance : Codec SatelliteDataDeletion := .record <| SatelliteDataDeletion.mk
  <$> field "system" (·.system)
  <*> field "data_mask" (·.dataMask)

instance : Codec ServiceDataDeletion := .record <| ServiceDataDeletion.mk
  <$> field "delete_all" (·.deleteAll)
  <*> field "satellite_data" (·.satelliteData)
  <*> field "common_data" (·.commonData)
  <*> field "cell_db" (·.cellData)

instance : Codec SatelliteDeletion := .record <| SatelliteDeletion.mk
  <$> field "gnss_sv_id" (·.satelliteId)
  <*> field "system" (·.system)
  <*> field "mask" (·.mask)

instance : Codec AssistDataDeletion := .record <| AssistDataDeletion.mk
  <$> field "delete_all" (·.deleteAll)
  <*> field "sv_info" (·.info)
  <*> field "gnss_data" (·.gnssData)
  <*> field "cell_db" (·.cellData)

instance : Codec Ipv4Address := .record <| Ipv4Address.mk
  <$> field "addr" (·.address)
  <*> field "port" (·.port)

instance : Codec ServerAddress where
  write spelling
    | .url value => .tagged "Url" (Codec.write spelling value)
    | .ipv4 value => .tagged "Ipv4" (Codec.write spelling value)
  read := Codec.readUnion [
    .carrying "Url" .url,
    .carrying "Ipv4" .ipv4]

instance : Codec ServerSetting := .record <| ServerSetting.mk
  <$> field "server_type" (·.serverType)
  <*> field "address" (·.address)

instance : Codec NativeApnProfile := .record <| NativeApnProfile.mk
  <$> field "pdn_type" (·.pdnType)
  <*> field "apn_name" (·.apnName)

instance : Codec DataCallStatus := .record <| DataCallStatus.mk
  <$> field "conn_handle" (·.connection)
  <*> field "open" (·.isOpen)
  <*> field "success" (·.success)
  <*> field "apn_profile" (·.apnProfile)
  <*> field "apn_type_mask" (·.apnTypes)

instance : Codec ProtocolSetting := .record <| ProtocolSetting.mk
  <$> field "supl_version" (·.suplVersion)
  <*> field "lpp_config" (·.lppPlanes)
  <*> field "assisted_glonass_protocol" (·.assistedGlonassProtocol)
  <*> field "lppe_cp_config" (·.lppeControlPlane)
  <*> field "lppe_up_config" (·.lppeUserPlane)

instance : Codec SensorControlSetting := .record <| SensorControlSetting.mk
  <$> field "performance_control_mode" (·.controlMode)
  <*> field "accel_sampling" (·.accelSampling)
  <*> field "gyro_sampling" (·.gyroSampling)
  <*> field "accel_sampling_high" (·.accelSamplingHigh)
  <*> field "gyro_sampling_high" (·.gyroSamplingHigh)
  <*> field "algorithm_config" (·.algorithmSetting)

instance : Codec ReportSubscription := .record <| ReportSubscription.mk
  <$> field "meas_report" (·.measurementReport)
  <*> field "sv_poly_report" (·.polynomials)
  <*> field "report_full_sv_poly_db" (·.fullPolynomials)
  <*> field "report_full_ephemeris_db" (·.fullEphemerides)
  <*> field "report_full_iono_db" (·.fullIonosphere)

instance : Codec TimeUncertaintyConstraint := .record <| TimeUncertaintyConstraint.mk
  <$> field "enabled" (·.enabled)
  <*> field "tunc_constraint" (·.uncertainty)
  <*> field "energy_budget" (·.energyBudget)

instance : Codec BlacklistSetting := .record <| BlacklistSetting.mk
  <$> field "glo_blacklist" (·.glonassBlacklist)
  <*> field "glo_clear" (·.glonassClear)
  <*> field "bds_blacklist" (·.bdsBlacklist)
  <*> field "bds_clear" (·.bdsClear)
  <*> field "qzss_blacklist" (·.qzssBlacklist)
  <*> field "qzss_clear" (·.qzssClear)
  <*> field "gal_blacklist" (·.galileoBlacklist)
  <*> field "gal_clear" (·.galileoClear)

instance : Codec ConstellationSetting := .record <| ConstellationSetting.mk
  <$> field "reset" (·.reset)
  <*> field "enable_mask" (·.enableMask)
  <*> field "disable_mask" (·.disableMask)

instance : Codec NiAnswer := .record <| NiAnswer.mk
  <$> field "response" (·.response)
  <*> field "request" (·.request)

instance : Codec OrbitsPart := .record <| OrbitsPart.mk
  <$> field "total_size" (·.totalSize)
  <*> field "total_parts" (·.totalParts)
  <*> field "part_num" (·.partNum)
  <*> field "data" (·.data)

instance : Codec LockSetting := .record <| LockSetting.mk
  <$> field "lock" (·.lock)
  <*> field "sub_type" (·.subType)

instance : Codec CertificateInjection := .record <| CertificateInjection.mk
  <$> field "slot" (·.slot)
  <*> field "data" (·.data)

instance : Codec Request where
  write spelling
    | .registerMasterClient value =>
        .tagged "RegisterMasterClient" (.tagged "key" (Codec.write spelling value))
    | .setOperationMode value => .tagged "SetOperationMode" (Codec.write spelling value)
    | .start value => .tagged "Start" (Codec.write spelling value)
    | .stop value =>
        .tagged "Stop" (.tagged "session_id" (Codec.write spelling value))
    | .injectTime value => .tagged "InjectUtcTime" (Codec.write spelling value)
    | .injectPosition value => .tagged "InjectPosition" (Codec.write spelling value)
    | .deleteServiceData value => .tagged "DeleteGnssServiceData" (Codec.write spelling value)
    | .deleteAssistData value => .tagged "DeleteAssistData" (Codec.write spelling value)
    | .answerNi value => .tagged "NiUserResponse" (Codec.write spelling value)
    | .setServer value => .tagged "SetServer" (Codec.write spelling value)
    | .injectPredictedOrbits value =>
        .tagged "InjectPredictedOrbitsData" (Codec.write spelling value)
    | .getPredictedOrbitsSource => .string "GetPredictedOrbitsDataSource"
    | .informConnectionStatus value =>
        .tagged "InformLocationServerConnStatus" (Codec.write spelling value)
    | .setProtocol value => .tagged "SetProtocolConfigParameters" (Codec.write spelling value)
    | .setNmeaTypes value =>
        .tagged "SetNmeaTypes" (.tagged "sentence_types" (Codec.write spelling value))
    | .setSensorProperties value => .tagged "SetSensorProperties" (Codec.write spelling value)
    | .setSensorControl value =>
        .tagged "SetSensorPerformanceControlConfig" (Codec.write spelling value)
    | .setEngineLock value => .tagged "SetEngineLock" (Codec.write spelling value)
    | .getEngineLock value =>
        .tagged "GetEngineLock" (.tagged "sub_type" (Codec.write spelling value))
    | .setXtraCheck value => .tagged "SetXtraVersionCheck" (Codec.write spelling value)
    | .injectCertificate value => .tagged "InjectSuplCertificate" (Codec.write spelling value)
    | .deleteCertificate value =>
        .tagged "DeleteSuplCertificate" (.tagged "slot" (Codec.write spelling value))
    | .setReportSubscription value =>
        .tagged "SetGnssConstellReportConfig" (Codec.write spelling value)
    | .constrainTimeUncertainty value =>
        .tagged "SetConstrainedTuncMode" (Codec.write spelling value)
    | .setPositionAssistedClock value =>
        .tagged "EnablePositionAssistedClockEst" (.tagged "enabled" (Codec.write spelling value))
    | .queryEnergyConsumed => .string "QueryGnssEnergyConsumed"
    | .getWwanPosition => .string "GetAvailWwanPosition"
    | .getBestAvailablePosition => .string "GetBestAvailablePosition"
    | .setBlacklist value => .tagged "SetBlacklistSv" (Codec.write spelling value)
    | .getBlacklist => .string "GetBlacklistSv"
    | .setConstellations value =>
        .tagged "SetConstellationControl" (Codec.write spelling value)
    | .getConstellations => .string "GetConstellationControl"
    | .queryAlwaysOn value =>
        .tagged "QueryAonConfig" (.tagged "transaction_id" (Codec.write spelling value))
    | .getSupportedFeatures => .string "GetSupportedFeature"
    | .notifyWifi value =>
        .tagged "NotifyWifiStatus" (.tagged "available" (Codec.write spelling value))
  read := Codec.readUnion [
    .single "RegisterMasterClient" "key" .registerMasterClient,
    .carrying "SetOperationMode" .setOperationMode,
    .carrying "Start" .start,
    .single "Stop" "session_id" .stop,
    .carrying "InjectUtcTime" .injectTime,
    .carrying "InjectPosition" .injectPosition,
    .carrying "DeleteGnssServiceData" .deleteServiceData,
    .carrying "DeleteAssistData" .deleteAssistData,
    .carrying "NiUserResponse" .answerNi,
    .carrying "SetServer" .setServer,
    .carrying "InjectPredictedOrbitsData" .injectPredictedOrbits,
    .unit "GetPredictedOrbitsDataSource" .getPredictedOrbitsSource,
    .carrying "InformLocationServerConnStatus" .informConnectionStatus,
    .carrying "SetProtocolConfigParameters" .setProtocol,
    .single "SetNmeaTypes" "sentence_types" .setNmeaTypes,
    .carrying "SetSensorProperties" .setSensorProperties,
    .carrying "SetSensorPerformanceControlConfig" .setSensorControl,
    .carrying "SetEngineLock" .setEngineLock,
    .single "GetEngineLock" "sub_type" .getEngineLock,
    .carrying "SetXtraVersionCheck" .setXtraCheck,
    .carrying "InjectSuplCertificate" .injectCertificate,
    .single "DeleteSuplCertificate" "slot" .deleteCertificate,
    .carrying "SetGnssConstellReportConfig" .setReportSubscription,
    .carrying "SetConstrainedTuncMode" .constrainTimeUncertainty,
    .single "EnablePositionAssistedClockEst" "enabled" .setPositionAssistedClock,
    .unit "QueryGnssEnergyConsumed" .queryEnergyConsumed,
    .unit "GetAvailWwanPosition" .getWwanPosition,
    .unit "GetBestAvailablePosition" .getBestAvailablePosition,
    .carrying "SetBlacklistSv" .setBlacklist,
    .unit "GetBlacklistSv" .getBlacklist,
    .carrying "SetConstellationControl" .setConstellations,
    .unit "GetConstellationControl" .getConstellations,
    .single "QueryAonConfig" "transaction_id" .queryAlwaysOn,
    .unit "GetSupportedFeature" .getSupportedFeatures,
    .single "NotifyWifiStatus" "available" .notifyWifi]

instance : Codec BlacklistReply := .record <| BlacklistReply.mk
  <$> field "status" (·.status)
  <*> field "glo_blacklist" (·.glonassBlacklist)
  <*> field "bds_blacklist" (·.bdsBlacklist)
  <*> field "qzss_blacklist" (·.qzssBlacklist)
  <*> field "gal_blacklist" (·.galileoBlacklist)

instance : Codec ConstellationReply := .record <| ConstellationReply.mk
  <$> field "status" (·.status)
  <*> field "glonass" (·.glonass)
  <*> field "bds" (·.bds)
  <*> field "qzss" (·.qzss)
  <*> field "galileo" (·.galileo)

instance : Codec ResponsePayload where
  write spelling
    | .none => .string "None"
    | .predictedOrbitsPart value =>
        .tagged "PredictedOrbitsPart" (.tagged "part_num" (Codec.write spelling value))
    | .xtraServers value => .tagged "XtraServers" (Codec.write spelling value)
    | .engineLock value => .tagged "EngineLock" (Codec.write spelling value)
    | .energyConsumed value =>
        .tagged "EnergyConsumed" (.tagged "since_first_boot" (Codec.write spelling value))
    | .alwaysOn value => .tagged "AonCapability" (Codec.write spelling value)
    | .supportedFeatures value => .tagged "SupportedFeatures" (Codec.write spelling value)
    | .constellationConfig value => .tagged "ConstellationConfig" (Codec.write spelling value)
  read := Codec.readUnion [
    .unit "None" .none,
    .single "PredictedOrbitsPart" "part_num" .predictedOrbitsPart,
    .carrying "XtraServers" .xtraServers,
    .carrying "EngineLock" .engineLock,
    .single "EnergyConsumed" "since_first_boot" .energyConsumed,
    .carrying "AonCapability" .alwaysOn,
    .carrying "SupportedFeatures" .supportedFeatures,
    .carrying "ConstellationConfig" .constellationConfig]

instance : Codec Response := .record <| Response.mk
  <$> field "status" (·.status)
  <*> field "payload" (·.payload)

instance : Codec JammerIndicator := .record <| JammerIndicator.mk
  <$> field "agc_metric_db" (·.agcMetric)
  <*> field "bp_metric_db" (·.jammerMetric)

instance : Codec PositionIndication := .record <| PositionIndication.mk
  <$> field "session_status" (·.sessionStatus)
  <*> field "session_id" (·.sessionId)
  <*> field "latitude" (·.latitude)
  <*> field "longitude" (·.longitude)
  <*> field "hor_unc_circular" (·.circularUncertainty)
  <*> field "hor_unc_ellipse_semi_minor" (·.ellipseSemiMinor)
  <*> field "hor_unc_ellipse_semi_major" (·.ellipseSemiMajor)
  <*> field "hor_unc_ellipse_orient_azimuth" (·.ellipseAzimuth)
  <*> field "hor_confidence" (·.horizontalConfidence)
  <*> field "hor_reliability" (·.horizontalReliability)
  <*> field "speed_horizontal" (·.speed)
  <*> field "speed_unc" (·.speedUncertainty)
  <*> field "altitude_wrt_ellipsoid" (·.altitude)
  <*> field "altitude_wrt_mean_sea_level" (·.altitudeMeanSeaLevel)
  <*> field "vert_unc" (·.verticalUncertainty)
  <*> field "vert_reliability" (·.verticalReliability)
  <*> field "heading" (·.heading)
  <*> field "heading_unc" (·.headingUncertainty)
  <*> field "magnetic_deviation" (·.magneticDeviation)
  <*> field "technology_mask" (·.technologies)
  <*> field "dop" (·.dop)
  <*> field "ext_dop" (·.extendedDop)
  <*> field "timestamp_utc_ms" (·.timestampUtcMs)
  <*> field "leap_seconds" (·.leapSeconds)
  <*> field "gps_time" (·.gpsTime)
  <*> field "time_unc_ms" (·.timeUncertaintyMs)
  <*> field "gnss_sv_used_list" (·.usedSatellites)
  <*> field "expanded_gnss_sv_used_list" (·.expandedUsedSatellites)
  <*> field "gnss_sv_used_signal_type_list" (·.usedSignals)
  <*> field "nav_solution_mask" (·.corrections)
  <*> field "vel_enu" (·.velocity)
  <*> field "vel_unc_enu" (·.velocityUncertainty)
  <*> field "spoof_report_mask" (·.spoofMask)
  <*> field "jammer_indicators" (·.jammerIndicators)

instance : Codec SatelliteInfo := .record <| SatelliteInfo.mk
  <$> field "system" (·.system)
  <*> field "gnss_sv_id" (·.satelliteId)
  <*> field "snr" (·.snr)
  <*> field "elevation" (·.elevation)
  <*> field "azimuth" (·.azimuth)
  <*> field "sv_info_mask" (·.satelliteInfoMask)

instance : Codec ExpandedSatelliteInfo := .record <| ExpandedSatelliteInfo.mk
  <$> field "sv_info" (·.info)
  <*> field "glo_frequency" (·.glonassFrequency)

instance : Codec SatelliteInfoIndication := .record <| SatelliteInfoIndication.mk
  <$> field "sv_list" (·.satellites)
  <*> field "expanded_sv_list" (·.expandedSatellites)
  <*> field "signal_type_list" (·.signals)

instance : Codec FragmentMeasurement := .record <| FragmentMeasurement.mk
  <$> field "gnss_sv_id" (·.satelliteId)
  <*> field "glo_frequency" (·.glonassFrequency)
  <*> field "loss_of_lock" (·.lossOfLock)
  <*> field "sv_status" (·.satelliteStatus)
  <*> field "health_status" (·.healthStatus)
  <*> field "sv_info_mask" (·.satelliteInfoMask)
  <*> field "cno" (·.cno)
  <*> field "glo_rf_loss" (·.glonassRfLoss)
  <*> field "meas_latency" (·.measurementLatency)
  <*> field "time_speed" (·.timeSpeed)
  <*> field "measurement_status" (·.status)
  <*> field "valid_meas_status_mask" (·.validStatus)
  <*> field "multipath_estimate" (·.multipathEstimate)
  <*> field "fine_speed" (·.fineSpeed)
  <*> field "fine_speed_unc" (·.fineSpeedUncertainty)
  <*> field "carrier_phase" (·.carrierPhase)
  <*> field "sv_elevation" (·.satelliteElevation)
  <*> field "sv_azimuth" (·.satelliteAzimuth)
  <*> field "cycle_slip_count" (·.cycleSlipCount)

instance : Codec MeasurementFragment := .record <| MeasurementFragment.mk
  <$> field "seq_num" (·.sequenceNumber)
  <*> field "max_message_num" (·.sequenceLength)
  <*> field "system" (·.system)
  <*> field "gnss_signal_type" (·.signal)
  <*> field "nhz_measurement" (·.isNhz)
  <*> field "rcvr_clock_frequency" (·.receiverClockFrequency)
  <*> field "leap_second" (·.leapSecond)
  <*> field "biases" (·.biases)
  <*> field "glo_time" (·.glonassTime)
  <*> field "system_time" (·.systemTime)
  <*> field "system_time_ext" (·.frameTime)
  <*> field "num_clock_resets" (·.clockResets)
  <*> field "sv_measurements" (·.measurements)
  <*> field "ext_sv_measurements" (·.overflowMeasurements)
  <*> field "carrier_phase_unc" (·.carrierPhaseUncertainty)
  <*> field "jammer_indicator" (·.jammerIndicator)

instance : Codec NativeKeplerElements := .record <| NativeKeplerElements.mk
  <$> field "gnss_sv_id" (·.satelliteId)
  <*> field "update_action" (·.updateAction)
  <*> field "iode" (·.iode)
  <*> field "a_sqrt" (·.aSqrt)
  <*> field "delta_n" (·.deltaN)
  <*> field "m0" (·.m0)
  <*> field "eccentricity" (·.eccentricity)
  <*> field "omega0" (·.omega0)
  <*> field "i0" (·.i0)
  <*> field "omega" (·.omega)
  <*> field "omega_dot" (·.omegaDot)
  <*> field "i_dot" (·.iDot)
  <*> field "c_uc" (·.cUc)
  <*> field "c_us" (·.cUs)
  <*> field "c_rc" (·.cRc)
  <*> field "c_rs" (·.cRs)
  <*> field "c_ic" (·.cIc)
  <*> field "c_is" (·.cIs)
  <*> field "toe" (·.toe)
  <*> field "toc" (·.toc)
  <*> field "af0" (·.af0)
  <*> field "af1" (·.af1)
  <*> field "af2" (·.af2)

instance : Codec NativeGpsEphemeris := .record <| NativeGpsEphemeris.mk
  <$> field "common" (·.common)
  <*> field "signal_health" (·.signalHealth)
  <*> field "urai" (·.urai)
  <*> field "code_l2" (·.codeL2)
  <*> field "data_flag_l2p" (·.dataFlagL2p)
  <*> field "tgd" (·.tgd)
  <*> field "fit_interval" (·.fitInterval)
  <*> field "iodc" (·.iodc)

instance : Codec NativeGlonassEphemeris := .record <| NativeGlonassEphemeris.mk
  <$> field "gnss_sv_id" (·.satelliteId)
  <*> field "update_action" (·.updateAction)
  <*> field "bn_health" (·.bnHealth)
  <*> field "ln_health" (·.lnHealth)
  <*> field "tb" (·.tb)
  <*> field "ft" (·.ft)
  <*> field "glo_m" (·.glonassM)
  <*> field "en_age" (·.enAge)
  <*> field "glo_frequency" (·.glonassFrequency)
  <*> field "p1" (·.p1)
  <*> field "p2" (·.p2)
  <*> field "delta_tau" (·.deltaTau)
  <*> field "position" (·.position)
  <*> field "velocity" (·.velocity)
  <*> field "acceleration" (·.acceleration)
  <*> field "tau_n" (·.tauN)
  <*> field "gamma" (·.gamma)
  <*> field "toe" (·.toe)
  <*> field "nt" (·.nt)

instance : Codec NativeBdsEphemeris := .record <| NativeBdsEphemeris.mk
  <$> field "common" (·.common)
  <*> field "sv_health" (·.satelliteHealth)
  <*> field "aodc" (·.aodc)
  <*> field "tgd1" (·.tgd1)
  <*> field "tgd2" (·.tgd2)
  <*> field "urai" (·.urai)

instance : Codec NativeGalileoEphemeris := .record <| NativeGalileoEphemeris.mk
  <$> field "common" (·.common)
  <*> field "data_source_signal" (·.dataSourceSignal)
  <*> field "sis_index" (·.sisIndex)
  <*> field "bgd_e1_e5a" (·.bgdE1E5a)
  <*> field "bgd_e1_e5b" (·.bgdE1E5b)
  <*> field "sv_health" (·.satelliteHealth)

instance : Codec NativeEphemerisList where
  write spelling
    | .gps value => .tagged "Gps" (Codec.write spelling value)
    | .glonass value => .tagged "Glonass" (Codec.write spelling value)
    | .bds value => .tagged "Bds" (Codec.write spelling value)
    | .galileo value => .tagged "Galileo" (Codec.write spelling value)
    | .qzss value => .tagged "Qzss" (Codec.write spelling value)
  read := Codec.readUnion [
    .carrying "Gps" .gps,
    .carrying "Glonass" .glonass,
    .carrying "Bds" .bds,
    .carrying "Galileo" .galileo,
    .carrying "Qzss" .qzss]

instance : Codec EphemerisIndication := .record <| EphemerisIndication.mk
  <$> field "gps_system_time" (·.gpsSystemTime)
  <*> field "list" (·.list)

instance : Codec NmeaIndication := .record <| NmeaIndication.mk
  <$> field "nmea" (·.nmea)
  <*> field "expanded_nmea" (·.expandedNmea)

instance : Codec PredictedOrbitsIndication := .record <| PredictedOrbitsIndication.mk
  <$> field "server_list" (·.serverList)

instance : Codec ServerConnectionIndication := .record <| ServerConnectionIndication.mk
  <$> field "conn_handle" (·.connection)
  <*> field "request_type" (·.requestType)
  <*> field "wwan_type" (·.wwanType)
  <*> field "bearer_type" (·.bearerType)
  <*> field "apn_type_mask" (·.apnTypes)

instance : Codec WifiIndication := .record <| WifiIndication.mk
  <$> field "request_type" (·.requestType)
  <*> field "e911_mode" (·.emergencyMode)
  <*> field "tbf_ms" (·.intervalMs)

instance : Codec NativeKlobucharModel := .record <| NativeKlobucharModel.mk
  <$> field "data_source" (·.dataSource)
  <*> field "alpha" (·.alpha)
  <*> field "beta" (·.beta)

instance : Codec EventReportIndication := .record <| EventReportIndication.mk
  <$> field "event_report" (·.eventReport)
  <*> field "gps_system_time" (·.gpsSystemTime)
  <*> field "klobuchar_iono_model" (·.ionosphere)
  <*> field "leap_sec" (·.leapSeconds)
  <*> field "tau_c" (·.tauC)

instance : Codec NextLeapSecond := .record <| NextLeapSecond.mk
  <$> field "gps_time_current" (·.currentTime)
  <*> field "leap_seconds_current" (·.currentLeapSeconds)
  <*> field "gps_time_next_ls_event" (·.nextEventTime)
  <*> field "leap_seconds_next" (·.nextLeapSeconds)

instance : Codec SystemInfoIndication := .record <| SystemInfoIndication.mk
  <$> field "system_info" (·.systemInfo)
  <*> field "next_leap_second_info" (·.nextLeapSecondInfo)

instance : Codec WwanPositionReply := .record <| WwanPositionReply.mk
  <$> field "status" (·.status)
  <*> field "latitude" (·.latitude)
  <*> field "longitude" (·.longitude)
  <*> field "hor_unc_circular" (·.circularUncertainty)
  <*> field "hor_circular_confidence" (·.circularConfidence)
  <*> field "altitude_wrt_ellipsoid" (·.altitude)
  <*> field "vert_unc" (·.verticalUncertainty)
  <*> field "timestamp_utc_ms" (·.timestampUtcMs)

instance : Codec BestAvailableReply := .record <| BestAvailableReply.mk
  <$> field "status" (·.status)
  <*> field "latitude" (·.latitude)
  <*> field "longitude" (·.longitude)
  <*> field "hor_unc_circular" (·.circularUncertainty)
  <*> field "hor_circular_confidence" (·.circularConfidence)
  <*> field "altitude_wrt_ellipsoid" (·.altitude)
  <*> field "vert_unc" (·.verticalUncertainty)
  <*> field "hor_speed" (·.speed)
  <*> field "hor_speed_unc" (·.speedUncertainty)
  <*> field "heading" (·.heading)
  <*> field "heading_unc" (·.headingUncertainty)
  <*> field "technology_mask" (·.technologies)
  <*> field "spoof_report_mask" (·.spoofMask)
  <*> field "timestamp_utc_ms" (·.timestampUtcMs)

instance : Codec Indication where
  write spelling
    | .position value => .tagged "Position" (Codec.write spelling value)
    | .unpropagatedPosition value => .tagged "UnpropagatedPosition" (Codec.write spelling value)
    | .satelliteInfo value => .tagged "SvInfo" (Codec.write spelling value)
    | .engineState value => .tagged "EngineState" (Codec.write spelling value)
    | .fixSessionState value => .tagged "FixSessionState" (Codec.write spelling value)
    | .nmea value => .tagged "Nmea" (Codec.write spelling value)
    | .predictedOrbitsRequest value =>
        .tagged "InjectPredictedOrbitsReq" (Codec.write spelling value)
    | .timeRequest => .string "InjectTimeReq"
    | .positionRequest => .string "InjectPositionReq"
    | .niRequest value => .tagged "NiNotifyVerifyReq" (Codec.write spelling value)
    | .connectionRequest value =>
        .tagged "LocationServerConnectionReq" (Codec.write spelling value)
    | .measurement value => .tagged "GnssMeasurement" (Codec.write spelling value)
    | .polynomial value => .tagged "SvPolynomial" (Codec.write spelling value)
    | .ephemeris value => .tagged "Ephemeris" (Codec.write spelling value)
    | .blacklist value => .tagged "GetBlacklistSv" (Codec.write spelling value)
    | .constellations value =>
        .tagged "GetConstellationControl" (Codec.write spelling value)
    | .wifiRequest value => .tagged "WifiReq" (Codec.write spelling value)
    | .eventReport value => .tagged "EventReport" (Codec.write spelling value)
    | .systemInfo value => .tagged "SystemInfo" (Codec.write spelling value)
  read := Codec.readUnion [
    .carrying "Position" .position,
    .carrying "UnpropagatedPosition" .unpropagatedPosition,
    .carrying "SvInfo" .satelliteInfo,
    .carrying "EngineState" .engineState,
    .carrying "FixSessionState" .fixSessionState,
    .carrying "Nmea" .nmea,
    .carrying "InjectPredictedOrbitsReq" .predictedOrbitsRequest,
    .unit "InjectTimeReq" .timeRequest,
    .unit "InjectPositionReq" .positionRequest,
    .carrying "NiNotifyVerifyReq" .niRequest,
    .carrying "LocationServerConnectionReq" .connectionRequest,
    .carrying "GnssMeasurement" .measurement,
    .carrying "SvPolynomial" .polynomial,
    .carrying "Ephemeris" .ephemeris,
    .carrying "GetBlacklistSv" .blacklist,
    .carrying "GetConstellationControl" .constellations,
    .carrying "WifiReq" .wifiRequest,
    .carrying "EventReport" .eventReport,
    .carrying "SystemInfo" .systemInfo]

instance : Codec PositionReply where
  write spelling
    | .wwanPosition value => .tagged "WwanPosition" (Codec.write spelling value)
    | .bestAvailablePosition value => .tagged "BestAvailablePosition" (Codec.write spelling value)
  read := Codec.readUnion [
    .carrying "WwanPosition" .wwanPosition,
    .carrying "BestAvailablePosition" .bestAvailablePosition]

instance : Codec TransportEvent where
  write spelling
    | .indication value => .tagged "Indication" (Codec.write spelling value)
    | .response value => .tagged "Response" (Codec.write spelling value)
    | .error value => .tagged "Error" (Codec.write spelling value)
  read := Codec.readUnion [
    .carrying "Indication" .indication,
    .carrying "Response" .response,
    .carrying "Error" .error]

/-- A handle is written as its value. -/
instance : Codec Handle where
  write spelling handle := Codec.write spelling handle.value
  read spelling json := (Codec.read spelling json).map Handle.mk

instance : Codec EngineCapabilities := .record <| EngineCapabilities.mk
  <$> field "supported_messages" (·.supportedMessages)
  <*> field "features" (·.features)
  <*> field "gnss_measurement_supported" (·.gnssMeasurementSupported)

end GnssAdapter
