import GnssAdapter.Flag

/-!
The kinds of access point a data call may serve, on the wire and in reports.
-/

namespace GnssAdapter

/-- A use of an access point in the words of the remote engine. -/
inductive NativeApnType where
  | default | ims | mms | dun | supl | hipri | fota | cbs | ia | emergency
  deriving DecidableEq

instance : Flag NativeApnType where
  width := 64
  layout := [
    (.default, 0, "DEFAULT"),
    (.ims, 1, "IMS"),
    (.mms, 2, "MMS"),
    (.dun, 3, "DUN"),
    (.supl, 4, "SUPL"),
    (.hipri, 5, "HIPRI"),
    (.fota, 6, "FOTA"),
    (.cbs, 7, "CBS"),
    (.ia, 8, "IA"),
    (.emergency, 9, "EMERGENCY")]

/-- A use of an access point in the words of the location engine. -/
inductive ApnType where
  | default | ims | mms | dun | supl | hipri | fota | cbs | ia | emergency
  deriving DecidableEq

instance : Flag ApnType where
  width := 32
  layout := [
    (.default, 0, "DEFAULT"),
    (.ims, 1, "IMS"),
    (.mms, 2, "MMS"),
    (.dun, 3, "DUN"),
    (.supl, 4, "SUPL"),
    (.hipri, 5, "HIPRI"),
    (.fota, 6, "FOTA"),
    (.cbs, 7, "CBS"),
    (.ia, 8, "IA"),
    (.emergency, 9, "EMERGENCY")]

def NativeApnType.reported : NativeApnType → ApnType
  | .default => .default
  | .ims => .ims
  | .mms => .mms
  | .dun => .dun
  | .supl => .supl
  | .hipri => .hipri
  | .fota => .fota
  | .cbs => .cbs
  | .ia => .ia
  | .emergency => .emergency

def ApnType.native : ApnType → NativeApnType
  | .default => .default
  | .ims => .ims
  | .mms => .mms
  | .dun => .dun
  | .supl => .supl
  | .hipri => .hipri
  | .fota => .fota
  | .cbs => .cbs
  | .ia => .ia
  | .emergency => .emergency

@[simp]
theorem ApnType.reported_native (apn : ApnType) : apn.native.reported = apn := by
  cases apn <;> rfl

@[simp]
theorem NativeApnType.native_reported (apn : NativeApnType) : apn.reported.native = apn := by
  cases apn <;> rfl

def reportedApnTypes : Mask NativeApnType → Mask ApnType :=
  Mask.translate fun apn => [apn.reported]

def nativeApnTypes : Mask ApnType → Mask NativeApnType :=
  Mask.translate fun apn => [apn.native]

end GnssAdapter
