import GnssAdapter.Flag
import GnssAdapter.Enumeration

/-!
Values that settings of the engine take.
-/

namespace GnssAdapter

/-- Which positioning is locked: mobile-originated, network-initiated, or both. -/
inductive PositioningLock where
  | none | mo | ni | moAndNi
  deriving DecidableEq

instance : Enumeration PositioningLock where
  names := [
    (.none, "None"),
    (.mo, "Mo"),
    (.ni, "Ni"),
    (.moAndNi, "MoAndNi")]

/-- A kind of location server. -/
inductive ServerKind where
  | supl | moSupl | mpc | customPde | pde
  deriving DecidableEq

instance : Enumeration ServerKind where
  names := [
    (.supl, "Supl"),
    (.moSupl, "MoSupl"),
    (.mpc, "Mpc"),
    (.customPde, "CustomPde"),
    (.pde, "Pde")]

inductive SuplVersion where
  | v1_0_0 | v2_0_0 | v2_0_2
  deriving DecidableEq

instance : Enumeration SuplVersion where
  names := [
    (.v1_0_0, "V1_0_0"),
    (.v2_0_0, "V2_0_0"),
    (.v2_0_2, "V2_0_2")]

inductive LppProfile where
  | rrlp | userPlane | controlPlane | userPlaneAndControlPlane
  deriving DecidableEq

instance : Enumeration LppProfile where
  names := [
    (.rrlp, "Rrlp"),
    (.userPlane, "UserPlane"),
    (.controlPlane, "ControlPlane"),
    (.userPlaneAndControlPlane, "UserPlaneAndControlPlane")]

/-- Which version of predicted-orbit files the engine insists on. -/
inductive XtraVersionCheck where
  | disabled | auto | xtra2 | xtra3
  deriving DecidableEq

instance : Enumeration XtraVersionCheck where
  names := [
    (.disabled, "Disabled"),
    (.auto, "Auto"),
    (.xtra2, "Xtra2"),
    (.xtra3, "Xtra3")]

/-- Noise figures of the motion sensors. -/
structure SensorProperties where
  gyroBiasVarianceRandomWalk : Option Float32 := none
  accelRandomWalkSpectralDensity : Option Float32 := none
  angleRandomWalkSpectralDensity : Option Float32 := none
  rateRandomWalkSpectralDensity : Option Float32 := none
  velocityRandomWalkSpectralDensity : Option Float32 := none

structure SensorSampling where
  samplesPerBatch : UInt16 := 0
  batchesPerSecond : UInt16 := 0

structure SensorControl where
  controlMode : Int32 := 0
  accel : SensorSampling := {}
  gyro : SensorSampling := {}
  accelHigh : SensorSampling := {}
  gyroHigh : SensorSampling := {}
  algorithmSetting : Int32 := 0

/-- A certificate in its binary form. -/
structure Certificate where
  data : ByteArray := .empty

/-- A protocol that may carry assistance for GLONASS. -/
inductive AGlonassProtocol where
  | rrcControlPlane | rrlpUserPlane | lppUserPlane | lppControlPlane
  deriving DecidableEq

instance : Flag AGlonassProtocol where
  width := 32
  layout := [
    (.rrcControlPlane, 0, "RRC_CONTROL_PLANE"),
    (.rrlpUserPlane, 1, "RRLP_USER_PLANE"),
    (.lppUserPlane, 2, "LPP_USER_PLANE"),
    (.lppControlPlane, 3, "LPP_CONTROL_PLANE")]

/-- An extension of LPP, on either plane. -/
inductive LppeCapability where
  | dbh | wlanApMeasurements | srnApMeasurements | sensorBaroMeasurements
  deriving DecidableEq

instance : Flag LppeCapability where
  width := 32
  layout := [
    (.dbh, 0, "DBH"),
    (.wlanApMeasurements, 1, "WLAN_AP_MEASUREMENTS"),
    (.srnApMeasurements, 2, "SRN_AP_MEASUREMENTS"),
    (.sensorBaroMeasurements, 3, "SENSOR_BARO_MEASUREMENTS")]

/-- A plane that LPP runs on. -/
inductive LppPlane where
  | userPlane | controlPlane
  deriving DecidableEq

instance : Flag LppPlane where
  width := 32
  layout := [
    (.userPlane, 0, "USER_PLANE"),
    (.controlPlane, 1, "CONTROL_PLANE")]

end GnssAdapter
