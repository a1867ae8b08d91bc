import GnssAdapter.Message.Response
import GnssAdapter.Network.DataCall

/-!
Settings as the engine knows them.
-/

namespace GnssAdapter

def SuplVersion.native : SuplVersion → NativeSuplVersion
  | .v1_0_0 => .v1_0
  | .v2_0_0 => .v2_0
  | .v2_0_2 => .v2_0_2

/-- The planes that a profile enables; RRLP does without LPP. -/
def LppProfile.planes : LppProfile → Mask LppPlane
  | .rrlp => ∅
  | .userPlane => .single .userPlane
  | .controlPlane => .single .controlPlane
  | .userPlaneAndControlPlane => .ofList [.userPlane, .controlPlane]

/-- Mobile-originated positioning is initiated by the mobile, network-initiated positioning is
terminated by it. -/
def PositioningLock.engine : PositioningLock → EngineLock
  | .none => .none
  | .mo => .mi
  | .ni => .mt
  | .moAndNi => .all

def EngineLock.positioning : EngineLock → PositioningLock
  | .none => .none
  | .mi => .mo
  | .mt => .ni
  | .all => .moAndNi

@[simp]
theorem EngineLock.positioning_engine (lock : PositioningLock) :
    lock.engine.positioning = lock := by
  cases lock <;> rfl

@[simp]
theorem PositioningLock.engine_positioning (lock : EngineLock) :
    lock.positioning.engine = lock := by
  cases lock <;> rfl

namespace SensorControl

/-- The control mode that leaves the engine's own in place. -/
def unsetMode : Int32 := 2

def setting (control : SensorControl) : SensorControlSetting where
  controlMode :=
    if control.controlMode = unsetMode then none else some control.controlMode
  accelSampling := control.accel
  gyroSampling := control.gyro
  accelSamplingHigh := control.accelHigh
  gyroSamplingHigh := control.gyroHigh
  algorithmSetting := control.algorithmSetting

end SensorControl

namespace XtraVersionCheck

/-- The check that a code stands for; an unknown code disables it. -/
def ofCode (code : UInt32) : XtraVersionCheck :=
  if code = 1 then .auto
  else if code = 2 then .xtra2
  else if code = 3 then .xtra3
  else .disabled

def native : XtraVersionCheck → NativeXtraCheck
  | .disabled => .disable
  | .auto => .auto
  | .xtra2 => .xtra2
  | .xtra3 => .xtra3

end XtraVersionCheck

namespace ServerKind

/-- The kind under which a server is set by URL. -/
def byUrl : ServerKind → NativeServerKind
  | .moSupl => .customSlp
  | .supl | .mpc | .customPde | .pde => .umtsSlp

/-- The kind under which a server is set by address. -/
def byAddress : ServerKind → NativeServerKind
  | .mpc => .cdmaMpc
  | .customPde => .customPde
  | .supl | .moSupl | .pde => .cdmaPde

end ServerKind

def AgpsBearer.pdn? : AgpsBearer → Option PdnType
  | .ipv4 => some .ipv4
  | .ipv6 => some .ipv6
  | .ipv4v6 => some .ipv4v6
  | .invalid => none

def NiResponse.user : NiResponse → NiUserResponse
  | .accept => .accept
  | .deny => .deny
  | .noResponse => .noResponse

/-- A blacklist in place of the old one: whatever is not listed is cleared. -/
def SatelliteBlacklist.setting (blacklist : SatelliteBlacklist) : BlacklistSetting where
  glonassBlacklist := blacklist.glonassBlacklist
  glonassClear := ~~~blacklist.glonassBlacklist
  bdsBlacklist := blacklist.bdsBlacklist
  bdsClear := ~~~blacklist.bdsBlacklist
  qzssBlacklist := blacklist.qzssBlacklist
  qzssClear := ~~~blacklist.qzssBlacklist
  galileoBlacklist := blacklist.galileoBlacklist
  galileoClear := ~~~blacklist.galileoBlacklist

def ConstellationConfig.setting (config : ConstellationConfig) : ConstellationSetting where
  enableMask := config.enabled.nonempty?
  disableMask := config.blacklisted.nonempty?

/-- A constraint on the time uncertainty; values that are not positive leave the engine's own. -/
def TimeUncertaintyConstraint.ofValues (enabled : Bool) (constraint : Float32) (budget : UInt32) :
    TimeUncertaintyConstraint where
  enabled
  uncertainty := if constraint > 0 then some constraint else none
  energyBudget := if budget = 0 then none else some budget

/-- The status of an opened data call; only a successful one tells how it was opened. -/
def DataCallStatus.opened (connection : UInt32) (success : Bool) (apn : String)
    (bearer : AgpsBearer) (apnTypes : Mask ApnType) : DataCallStatus where
  connection
  isOpen := true
  success
  apnProfile := if success then bearer.pdn?.map (⟨·, apn⟩) else none
  apnTypes := if success then apnTypes.nonempty?.map nativeApnTypes else none

def DataCallStatus.closed (connection : UInt32) (success : Bool) : DataCallStatus where
  connection
  isOpen := false
  success
  apnProfile := none
  apnTypes := none

end GnssAdapter
