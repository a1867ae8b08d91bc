import GnssAdapter.Flag

/-!
Positioning technologies and navigation corrections, as the engine tags them and as reports do.
-/

namespace GnssAdapter

/-- A technology as the remote engine tags it. -/
inductive NativeTechnology where
  | satellite | cellId | wifi | sensors | referenceLocation | injectedCoarsePosition | aflt
  | hybrid | ppe | veh | vis
  deriving DecidableEq

instance : Flag NativeTechnology where
  width := 32
  layout := [
    (.satellite, 0, "SATELLITE"),
    (.cellId, 1, "CELLID"),
    (.wifi, 2, "WIFI"),
    (.sensors, 3, "SENSORS"),
    (.referenceLocation, 4, "REFERENCE_LOCATION"),
    (.injectedCoarsePosition, 5, "INJECTED_COARSE_POSITION"),
    (.aflt, 6, "AFLT"),
    (.hybrid, 7, "HYBRID"),
    (.ppe, 8, "PPE"),
    (.veh, 9, "VEH"),
    (.vis, 10, "VIS")]

/-- A technology as reports tag it. -/
inductive Technology where
  | satellite | cellId | wifi | sensors | referenceLocation | injectedCoarsePosition | aflt
  | hybrid
  deriving DecidableEq

instance : Flag Technology where
  width := 32
  layout := [
    (.satellite, 0, "SATELLITE"),
    (.cellId, 1, "CELLID"),
    (.wifi, 2, "WIFI"),
    (.sensors, 3, "SENSORS"),
    (.referenceLocation, 4, "REFERENCE_LOCATION"),
    (.injectedCoarsePosition, 5, "INJECTED_COARSE_POSITION"),
    (.aflt, 6, "AFLT"),
    (.hybrid, 7, "HYBRID")]

/-- A correction as the remote engine tags it. -/
inductive NativeCorrection where
  | sbasCorrectionIono | sbasCorrectionFast | sbasCorrectionLong | sbasIntegrity
  | dgnssCorrection | rtkCorrection | pppCorrection
  deriving DecidableEq

instance : Flag NativeCorrection where
  width := 32
  layout := [
    (.sbasCorrectionIono, 0, "SBAS_CORRECTION_IONO"),
    (.sbasCorrectionFast, 1, "SBAS_CORRECTION_FAST"),
    (.sbasCorrectionLong, 2, "SBAS_CORRECTION_LONG"),
    (.sbasIntegrity, 3, "SBAS_INTEGRITY"),
    (.dgnssCorrection, 4, "DGNSS_CORRECTION"),
    (.rtkCorrection, 5, "RTK_CORRECTION"),
    (.pppCorrection, 6, "PPP_CORRECTION")]

/-- A correction as reports tag it. -/
inductive Correction where
  | sbasCorrectionIono | sbasCorrectionFast | sbasCorrectionLong | sbasIntegrity
  deriving DecidableEq

instance : Flag Correction where
  width := 32
  layout := [
    (.sbasCorrectionIono, 0, "SBAS_CORRECTION_IONO"),
    (.sbasCorrectionFast, 1, "SBAS_CORRECTION_FAST"),
    (.sbasCorrectionLong, 2, "SBAS_CORRECTION_LONG"),
    (.sbasIntegrity, 3, "SBAS_INTEGRITY")]

/-- The technology as reports tag it, if they do. -/
def NativeTechnology.reported : NativeTechnology → List Technology
  | .satellite => [.satellite]
  | .cellId => [.cellId]
  | .wifi => [.wifi]
  | .sensors => [.sensors]
  | .referenceLocation => [.referenceLocation]
  | .injectedCoarsePosition => [.injectedCoarsePosition]
  | .aflt => [.aflt]
  | .hybrid => [.hybrid]
  | .ppe | .veh | .vis => []

/-- The correction as reports tag it; only those of SBAS are reported. -/
def NativeCorrection.reported : NativeCorrection → List Correction
  | .sbasCorrectionIono => [.sbasCorrectionIono]
  | .sbasCorrectionFast => [.sbasCorrectionFast]
  | .sbasCorrectionLong => [.sbasCorrectionLong]
  | .sbasIntegrity => [.sbasIntegrity]
  | .dgnssCorrection | .rtkCorrection | .pppCorrection => []

def reportedTechnologies : Mask NativeTechnology → Mask Technology :=
  Mask.translate NativeTechnology.reported

def reportedCorrections : Mask NativeCorrection → Mask Correction :=
  Mask.translate NativeCorrection.reported

end GnssAdapter
