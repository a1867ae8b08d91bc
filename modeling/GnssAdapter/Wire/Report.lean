import GnssAdapter.Wire.Gnss
import GnssAdapter.Report.Location
import GnssAdapter.Report.Visibility
import GnssAdapter.Report.Measurement
import GnssAdapter.Report.Ephemeris
import GnssAdapter.Report.System
import GnssAdapter.Aiding.Data

/-!
Written forms of reports.
-/

namespace GnssAdapter

instance : Codec Coordinates := .record <| Coordinates.mk
  <$> field "latitude" (·.latitude)
  <*> field "longitude" (·.longitude)

instance : Codec Location := .record <| Location.mk
  <$> field "coordinates" (·.coordinates)
  <*> field "altitude" (·.altitude)
  <*> field "speed" (·.speed)
  <*> field "bearing" (·.bearing)
  <*> field "accuracy" (·.accuracy)
  <*> field "vertical_accuracy" (·.verticalAccuracy)
  <*> field "timestamp_ms" (·.timestampMs)
  <*> field "source" (·.source)
  <*> field "spoof_mask" (·.spoofMask)
  <*> field "unpropagated" (·.unpropagated)

instance : Codec Dilution := .record <| Dilution.mk
  <$> field "pdop" (·.pdop)
  <*> field "hdop" (·.hdop)
  <*> field "vdop" (·.vdop)

instance : Codec ExtendedDilution := .record <| ExtendedDilution.mk
  <$> field "pdop" (·.pdop)
  <*> field "hdop" (·.hdop)
  <*> field "vdop" (·.vdop)
  <*> field "gdop" (·.gdop)
  <*> field "tdop" (·.tdop)

instance : Codec Enu := .record <| Enu.mk
  <$> field "east" (·.east)
  <*> field "north" (·.north)
  <*> field "up" (·.up)

instance : Codec UncertaintyEllipse := .record <| UncertaintyEllipse.mk
  <$> field "semi_major" (·.semiMajor)
  <*> field "semi_minor" (·.semiMinor)
  <*> field "azimuth" (·.azimuth)

instance : Codec UsedSatellites := .record <| UsedSatellites.mk
  <$> field "gps" (·.gps)
  <*> field "glonass" (·.glonass)
  <*> field "bds" (·.bds)
  <*> field "galileo" (·.galileo)
  <*> field "qzss" (·.qzss)

instance : Codec SatelliteUsage := .record <| SatelliteUsage.mk
  <$> field "constellation" (·.constellation)
  <*> field "sv_id" (·.satelliteId)
  <*> field "signal_type" (·.signal)

instance : Codec ApTimestamp := .record <| ApTimestamp.mk
  <$> field "boot_time" (·.bootTime)
  <*> field "uncertainty_ms" (·.uncertaintyMs)

instance : Codec LocationExtended := .record <| LocationExtended.mk
  <$> field "ap_timestamp" (·.apTimestamp)
  <*> field "tech_mask" (·.technologies)
  <*> field "magnetic_deviation" (·.magneticDeviation)
  <*> field "dop" (·.dop)
  <*> field "ext_dop" (·.extendedDop)
  <*> field "altitude_mean_sea_level" (·.altitudeMeanSeaLevel)
  <*> field "vert_unc" (·.verticalUncertainty)
  <*> field "speed_unc" (·.speedUncertainty)
  <*> field "bearing_unc" (·.bearingUncertainty)
  <*> field "horizontal_reliability" (·.horizontalReliability)
  <*> field "vertical_reliability" (·.verticalReliability)
  <*> field "hor_unc_ellipse" (·.uncertaintyEllipse)
  <*> field "north_std_dev" (·.northStdDev)
  <*> field "east_std_dev" (·.eastStdDev)
  <*> field "sv_used_ids" (·.usedSatellites)
  <*> field "meas_usage" (·.satelliteUsage)
  <*> field "nav_solution_mask" (·.corrections)
  <*> field "gps_time" (·.gpsTime)
  <*> field "velocity" (·.velocity)
  <*> field "velocity_unc" (·.velocityUncertainty)
  <*> field "system_time" (·.systemTime)
  <*> field "time_unc_ms" (·.timeUncertaintyMs)
  <*> field "leap_seconds" (·.leapSeconds)

instance : Codec SignalJamming := .record <| SignalJamming.mk
  <$> field "agc_db" (·.agcDb)
  <*> field "jammer_ind_db" (·.jammerDb)

instance : Codec JammerData := .record <| JammerData.mk
  <$> field "signals" (·.signals)

instance : Codec PositionReport := .record <| PositionReport.mk
  <$> field "location" (·.location)
  <*> field "extended" (·.extended)
  <*> field "status" (·.status)
  <*> field "tech_mask" (·.technologies)
  <*> field "data" (·.data)
  <*> field "ms_in_week" (·.msInWeek)

instance : Codec LocationInfo := .record <| LocationInfo.mk
  <$> field "location" (·.location)
  <*> field "system_time" (·.systemTime)
  <*> field "leap_seconds" (·.leapSeconds)
  <*> field "east_velocity" (·.eastVelocity)
  <*> field "north_velocity" (·.northVelocity)
  <*> field "up_velocity" (·.upVelocity)
  <*> field "east_velocity_std_dev" (·.eastVelocityStdDev)
  <*> field "north_velocity_std_dev" (·.northVelocityStdDev)
  <*> field "up_velocity_std_dev" (·.upVelocityStdDev)
  <*> field "time_unc_ms" (·.timeUncertaintyMs)
  <*> field "sv_used" (·.usedSatellites)
  <*> field "tech_mask" (·.technologies)

instance : Codec VisibleSatellite := .record <| VisibleSatellite.mk
  <$> field "sv_id" (·.satelliteId)
  <*> field "sv_type" (·.constellation)
  <*> field "cn0_dbhz" (·.cn0Dbhz)
  <*> field "elevation" (·.elevation)
  <*> field "azimuth" (·.azimuth)
  <*> field "options" (·.options)
  <*> field "carrier_frequency_hz" (·.carrierFrequencyHz)
  <*> field "signal_type" (·.signal)

instance : Codec VisibilityReport := .record <| VisibilityReport.mk
  <$> field "signal_type_valid" (·.signalTypeValid)
  <*> field "svs" (·.satellites)

instance : Codec EpochSystemTime := .record <| EpochSystemTime.mk
  <$> field "time" (·.time)
  <*> field "ref_fcount" (·.frameCount)
  <*> field "num_clock_resets" (·.clockResets)

instance : Codec EpochGlonassTime := .record <| EpochGlonassTime.mk
  <$> field "time" (·.time)
  <*> field "ref_fcount" (·.frameCount)
  <*> field "num_clock_resets" (·.clockResets)

instance : Codec RawHeader := .record <| RawHeader.mk
  <$> field "clock_frequency" (·.clockFrequency)
  <*> field "leap_sec" (·.leapSeconds)
  <*> field "biases" (·.biases)
  <*> field "gps_time" (·.gpsTime)
  <*> field "gal_time" (·.galileoTime)
  <*> field "bds_time" (·.bdsTime)
  <*> field "qzss_time" (·.qzssTime)
  <*> field "glo_time" (·.glonassTime)
  <*> field "system_rtc_ms" (·.rtcMs)
  <*> field "ap_timestamp" (·.apTimestamp)

instance : Codec RawExtras := .record <| RawExtras.mk
  <$> field "multipath_estimate" (·.multipathEstimate)
  <*> field "fine_speed" (·.fineSpeed)
  <*> field "fine_speed_unc" (·.fineSpeedUncertainty)
  <*> field "carrier_phase" (·.carrierPhase)
  <*> field "carrier_phase_unc" (·.carrierPhaseUncertainty)
  <*> field "elevation" (·.elevation)
  <*> field "azimuth" (·.azimuth)
  <*> field "cycle_slip_count" (·.cycleSlipCount)

instance : Codec RawMeasurement := .record <| RawMeasurement.mk
  <$> field "system" (·.system)
  <*> field "signal_type" (·.signal)
  <*> field "sv_id" (·.satelliteId)
  <*> field "glo_frequency" (·.glonassFrequency)
  <*> field "loss_of_lock" (·.lossOfLock)
  <*> field "sv_status" (·.satelliteStatus)
  <*> field "health_status" (·.healthStatus)
  <*> field "sv_info_mask" (·.satelliteInfoMask)
  <*> field "cno" (·.cno)
  <*> field "glo_rf_loss" (·.glonassRfLoss)
  <*> field "meas_latency" (·.measurementLatency)
  <*> field "time_speed" (·.timeSpeed)
  <*> field "measurement_status" (·.status)
  <*> field "valid_meas_status_mask" (·.validStatus)
  <*> field "extras" (·.extras)

instance : Codec RawSet := .record <| RawSet.mk
  <$> field "is_nhz" (·.isNhz)
  <*> field "header" (·.header)
  <*> field "measurements" (·.measurements)

instance : Codec ProcessedMeasurement := .record <| ProcessedMeasurement.mk
  <$> field "sv_type" (·.constellation)
  <*> field "sv_id" (·.satelliteId)
  <*> field "time_offset_ns" (·.timeOffsetNs)
  <*> field "state" (·.state)
  <*> field "received_sv_time_ns" (·.receivedSatelliteTimeNs)
  <*> field "received_sv_time_unc_ns" (·.receivedSatelliteTimeUncertaintyNs)
  <*> field "cn0_dbhz" (·.cn0Dbhz)
  <*> field "pseudorange_rate_mps" (·.pseudorangeRateMps)
  <*> field "pseudorange_rate_unc_mps" (·.pseudorangeRateUncertaintyMps)
  <*> field "carrier_frequency_hz" (·.carrierFrequencyHz)
  <*> field "multipath" (·.multipath)
  <*> field "agc_level_db" (·.agcLevelDb)

instance : Codec ReceiverClock := .record <| ReceiverClock.mk
  <$> field "time_ns" (·.timeNs)
  <*> field "time_unc_ns" (·.timeUncertaintyNs)
  <*> field "full_bias_ns" (·.fullBiasNs)
  <*> field "bias_ns" (·.biasNs)
  <*> field "bias_unc_ns" (·.biasUncertaintyNs)
  <*> field "drift_nsps" (·.driftNsps)
  <*> field "drift_unc_nsps" (·.driftUncertaintyNsps)
  <*> field "hw_clock_discontinuity_count" (·.discontinuities)

instance : Codec ProcessedEpoch := .record <| ProcessedEpoch.mk
  <$> field "clock" (·.clock)
  <*> field "measurements" (·.measurements)

instance : Codec KeplerElements := .record <| KeplerElements.mk
  <$> field "sv_id" (·.satelliteId)
  <*> field "action" (·.action)
  <*> field "iode" (·.iode)
  <*> field "a_sqrt" (·.aSqrt)
  <*> field "delta_n" (·.deltaN)
  <*> field "m0" (·.m0)
  <*> field "eccentricity" (·.eccentricity)
  <*> field "omega0" (·.omega0)
  <*> field "i0" (·.i0)
  <*> field "omega" (·.omega)
  <*> field "omega_dot" (·.omegaDot)
  <*> field "i_dot" (·.iDot)
  <*> field "c_uc" (·.cUc)
  <*> field "c_us" (·.cUs)
  <*> field "c_rc" (·.cRc)
  <*> field "c_rs" (·.cRs)
  <*> field "c_ic" (·.cIc)
  <*> field "c_is" (·.cIs)
  <*> field "toe" (·.toe)
  <*> field "toc" (·.toc)
  <*> field "af0" (·.af0)
  <*> field "af1" (·.af1)
  <*> field "af2" (·.af2)

instance : Codec GpsEphemeris := .record <| GpsEphemeris.mk
  <$> field "common" (·.common)
  <*> field "signal_health" (·.signalHealth)
  <*> field "urai" (·.urai)
  <*> field "code_l2" (·.codeL2)
  <*> field "data_flag_l2p" (·.dataFlagL2p)
  <*> field "tgd" (·.tgd)
  <*> field "fit_interval" (·.fitInterval)
  <*> field "iodc" (·.iodc)

instance : Codec GlonassEphemeris := .record <| GlonassEphemeris.mk
  <$> field "sv_id" (·.satelliteId)
  <*> field "action" (·.action)
  <*> field "bn_health" (·.bnHealth)
  <*> field "ln_health" (·.lnHealth)
  <*> field "tb" (·.tb)
  <*> field "ft" (·.ft)
  <*> field "glo_m" (·.glonassM)
  <*> field "en_age" (·.enAge)
  <*> field "glo_frequency" (·.glonassFrequency)
  <*> field "p1" (·.p1)
  <*> field "p2" (·.p2)
  <*> field "delta_tau" (·.deltaTau)
  <*> field "position" (·.position)
  <*> field "velocity" (·.velocity)
  <*> field "acceleration" (·.acceleration)
  <*> field "tau_n" (·.tauN)
  <*> field "gamma" (·.gamma)
  <*> field "toe" (·.toe)
  <*> field "nt" (·.nt)

instance : Codec BdsEphemeris := .record <| BdsEphemeris.mk
  <$> field "common" (·.common)
  <*> field "sv_health" (·.satelliteHealth)
  <*> field "aodc" (·.aodc)
  <*> field "tgd1" (·.tgd1)
  <*> field "tgd2" (·.tgd2)
  <*> field "urai" (·.urai)

instance : Codec GalileoEphemeris := .record <| GalileoEphemeris.mk
  <$> field "common" (·.common)
  <*> field "data_source_signal" (·.dataSourceSignal)
  <*> field "sis_index" (·.sisIndex)
  <*> field "bgd_e1_e5a" (·.bgdE1E5a)
  <*> field "bgd_e1_e5b" (·.bgdE1E5b)
  <*> field "sv_health" (·.satelliteHealth)

instance : Codec EphemerisData where
  write spelling
    | .gps value => .tagged "Gps" (Codec.write spelling value)
    | .glonass value => .tagged "Glonass" (Codec.write spelling value)
    | .bds value => .tagged "Bds" (Codec.write spelling value)
    | .galileo value => .tagged "Galileo" (Codec.write spelling value)
    | .qzss value => .tagged "Qzss" (Codec.write spelling value)
  read := Codec.readUnion [
    .carrying "Gps" .gps,
    .carrying "Glonass" .glonass,
    .carrying "Bds" .bds,
    .carrying "Galileo" .galileo,
    .carrying "Qzss" .qzss]

instance : Codec EphemerisReport := .record <| EphemerisReport.mk
  <$> field "system_time" (·.systemTime)
  <*> field "data" (·.data)

instance : Codec KlobucharModel := .record <| KlobucharModel.mk
  <$> field "constellation" (·.constellation)
  <*> field "system_time" (·.systemTime)
  <*> field "alpha" (·.alpha)
  <*> field "beta" (·.beta)

instance : Codec AdditionalSystemInfo := .record <| AdditionalSystemInfo.mk
  <$> field "system_time" (·.systemTime)
  <*> field "leap_sec" (·.leapSeconds)
  <*> field "tau_c" (·.tauC)

instance : Codec LeapSecondChange := .record <| LeapSecondChange.mk
  <$> field "gps_week" (·.gpsWeek)
  <*> field "gps_time_of_week_ms" (·.gpsTimeOfWeekMs)
  <*> field "leap_seconds_before" (·.leapSecondsBefore)
  <*> field "leap_seconds_after" (·.leapSecondsAfter)

instance : Codec LocationSystemInfo := .record <| LocationSystemInfo.mk
  <$> field "current_leap_seconds" (·.currentLeapSeconds)
  <*> field "leap_second_change" (·.leapSecondChange)

instance : Codec SatelliteBlacklist := .record <| SatelliteBlacklist.mk
  <$> field "glo_blacklist" (·.glonassBlacklist)
  <*> field "bds_blacklist" (·.bdsBlacklist)
  <*> field "qzss_blacklist" (·.qzssBlacklist)
  <*> field "gal_blacklist" (·.galileoBlacklist)

instance : Codec ConstellationConfig := .record <| ConstellationConfig.mk
  <$> field "enabled" (·.enabled)
  <*> field "blacklisted" (·.blacklisted)

instance : Codec AidingData := .record <| AidingData.mk
  <$> field "delete_all" (·.deleteAll)
  <*> field "sv_mask" (·.satelliteData)
  <*> field "sv_type_mask" (·.constellations)
  <*> field "common_mask" (·.commonData)

end GnssAdapter
