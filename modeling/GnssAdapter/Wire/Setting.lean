import GnssAdapter.Codec
import GnssAdapter.Session.Criteria
import GnssAdapter.Setting.Value

/-!
Written forms of criteria and settings.
-/

namespace GnssAdapter

instance : Codec FixCriteria := .record <| FixCriteria.mk
  <$> field "mode" (·.mode)
  <*> field "recurrence" (·.recurrence)
  <*> field "min_interval_ms" (·.minIntervalMs)
  <*> field "preferred_accuracy_m" (·.preferredAccuracyM)
  <*> field "share_position" (·.sharePosition)
  <*> field "credentials" (·.credentials)
  <*> field "provider" (·.provider)
  <*> field "power_mode" (·.powerMode)
  <*> field "time_between_measurements_ms" (·.timeBetweenMeasurementsMs)

instance : Codec SensorProperties := .record <| SensorProperties.mk
  <$> field "gyro_bias_variance_random_walk" (·.gyroBiasVarianceRandomWalk)
  <*> field "accel_random_walk_spectral_density" (·.accelRandomWalkSpectralDensity)
  <*> field "angle_random_walk_spectral_density" (·.angleRandomWalkSpectralDensity)
  <*> field "rate_random_walk_spectral_density" (·.rateRandomWalkSpectralDensity)
  <*> field "velocity_random_walk_spectral_density" (·.velocityRandomWalkSpectralDensity)

instance : Codec SensorSampling := .record <| SensorSampling.mk
  <$> field "samples_per_batch" (·.samplesPerBatch)
  <*> field "batches_per_sec" (·.batchesPerSecond)

instance : Codec SensorControl := .record <| SensorControl.mk
  <$> field "control_mode" (·.controlMode)
  <*> field "accel" (·.accel)
  <*> field "gyro" (·.gyro)
  <*> field "accel_high" (·.accelHigh)
  <*> field "gyro_high" (·.gyroHigh)
  <*> field "algorithm_config" (·.algorithmSetting)

instance : Codec Certificate := .record <| Certificate.mk
  <$> field "data" (·.data)

end GnssAdapter
