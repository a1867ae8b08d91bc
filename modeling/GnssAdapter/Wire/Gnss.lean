import GnssAdapter.Codec
import GnssAdapter.Gnss.Technology
import GnssAdapter.Gnss.Measurement
import GnssAdapter.Event.Mask

/-!
Written forms of GNSS times and measurements.
-/

namespace GnssAdapter

instance : Codec GpsTime := .record <| GpsTime.mk
  <$> field "week" (·.week)
  <*> field "tow_ms" (·.towMs)

instance : Codec SystemTime := .record <| SystemTime.mk
  <$> field "week" (·.week)
  <*> field "week_ms" (·.weekMs)
  <*> field "clk_time_bias_ms" (·.clockTimeBiasMs)
  <*> field "clk_time_unc_ms" (·.clockTimeUncertaintyMs)

instance : Codec GlonassTime := .record <| GlonassTime.mk
  <$> field "four_year" (·.fourYear)
  <*> field "days" (·.days)
  <*> field "msec" (·.msec)
  <*> field "clk_time_bias_ms" (·.clockTimeBiasMs)
  <*> field "clk_time_unc_ms" (·.clockTimeUncertaintyMs)

instance : Codec FrameTime := .record <| FrameTime.mk
  <$> field "ref_fcount" (·.frameCount)
  <*> field "system_rtc_ms" (·.rtcMs)

instance : Codec GnssTime where
  write spelling
    | .gps value => .tagged "Gps" (Codec.write spelling value)
    | .galileo value => .tagged "Galileo" (Codec.write spelling value)
    | .beidou value => .tagged "Beidou" (Codec.write spelling value)
    | .qzss value => .tagged "Qzss" (Codec.write spelling value)
    | .glonass value => .tagged "Glonass" (Codec.write spelling value)
  read := Codec.readUnion [
    .carrying "Gps" .gps,
    .carrying "Galileo" .galileo,
    .carrying "Beidou" .beidou,
    .carrying "Qzss" .qzss,
    .carrying "Glonass" .glonass]

instance : Codec LeapSecondState := .record <| LeapSecondState.mk
  <$> field "leap_sec" (·.leapSeconds)
  <*> field "leap_sec_unc" (·.uncertainty)

instance : Codec ClockFrequency := .record <| ClockFrequency.mk
  <$> field "clock_drift" (·.clockDrift)
  <*> field "clock_drift_unc" (·.clockDriftUncertainty)
  <*> field "source_of_freq" (·.sourceOfFrequency)

instance : Codec SystemBias := .record <| SystemBias.mk
  <$> field "valid_mask" (·.validMask)
  <*> field "time_bias" (·.timeBias)
  <*> field "time_bias_unc" (·.timeBiasUncertainty)

instance : Codec SystemBiases := .record <| SystemBiases.mk
  <$> field "gps_glo" (·.gpsGlonass)
  <*> field "gps_bds" (·.gpsBds)
  <*> field "gps_gal" (·.gpsGalileo)
  <*> field "bds_glo" (·.bdsGlonass)
  <*> field "gal_glo" (·.galileoGlonass)
  <*> field "gal_bds" (·.galileoBds)
  <*> field "gal_e1_e5a" (·.galileoE1E5a)
  <*> field "gps_l1_l5" (·.gpsL1L5)

instance : Codec TimeSpeed := .record <| TimeSpeed.mk
  <$> field "sv_time_ms" (·.satelliteTimeMs)
  <*> field "sv_time_sub_ms" (·.satelliteTimeSubMs)
  <*> field "sv_time_unc_ms" (·.satelliteTimeUncertaintyMs)
  <*> field "doppler_shift" (·.dopplerShift)
  <*> field "doppler_shift_unc" (·.dopplerShiftUncertainty)

instance : Codec OrbitPolynomial := .record <| OrbitPolynomial.mk
  <$> field "sv_id" (·.satelliteId)
  <*> field "t0" (·.t0)
  <*> field "glo_frequency" (·.glonassFrequency)
  <*> field "iode" (·.iode)
  <*> field "sv_pos_unc" (·.satellitePositionUncertainty)
  <*> field "flags" (·.flags)
  <*> field "poly_coeff_xyz0" (·.xyz0)
  <*> field "poly_coeff_xyzn" (·.xyzn)
  <*> field "poly_coeff_clock_bias" (·.clockBias)
  <*> field "iono_dot" (·.ionoDot)
  <*> field "iono_delay" (·.ionoDelay)
  <*> field "sbas_iono_dot" (·.sbasIonoDot)
  <*> field "sbas_iono_delay" (·.sbasIonoDelay)
  <*> field "tropo_delay" (·.tropoDelay)
  <*> field "elevation" (·.elevation)
  <*> field "elevation_dot" (·.elevationDot)
  <*> field "elevation_unc" (·.elevationUncertainty)
  <*> field "vel_coef" (·.velocityCoefficients)
  <*> field "enhanced_iod" (·.enhancedIod)

end GnssAdapter
