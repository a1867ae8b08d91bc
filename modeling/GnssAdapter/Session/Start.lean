import GnssAdapter.Message.Request

/-!
The requests that start and stop a fix session.
-/

namespace GnssAdapter

def PositionMode.operation : PositionMode → OperationMode
  | .standalone => .standalone
  | .msBased => .msb
  | .msAssisted => .msa
  | .cellId => .cellId
  | .wwan => .wwan

def PowerMode.native : PowerMode → NativePowerMode
  | .m1 => .improvedAccuracy
  | .m2 => .normal
  | .m3 => .backgroundDefinedPower
  | .m4 => .backgroundDefinedTime
  | .m5 => .backgroundKeepWarm

/-- The one fix session of an adapter. -/
def sessionId : UInt8 := 1

namespace FixCriteria

/-- The tier of the preferred accuracy: high up to 100 m, medium up to 1000 m. -/
def accuracyLevel (criteria : FixCriteria) : AccuracyLevel :=
  if criteria.preferredAccuracyM ≤ 100 then .high
  else if criteria.preferredAccuracyM ≤ 1000 then .med
  else .low

/-- A session of low accuracy reports every ten minutes at most. -/
def intervalMs (criteria : FixCriteria) : UInt32 :=
  if criteria.accuracyLevel = .low then max criteria.minIntervalMs 600000
  else criteria.minIntervalMs

/-- The power mode with its time between measurements; in mode M4 that is the report interval. -/
def powerSetting? (criteria : FixCriteria) : Option NativePowerSetting :=
  criteria.powerMode.map fun mode =>
    { mode := mode.native
      timeBetweenMeasurementsMs :=
        if mode = .m4 then criteria.intervalMs else criteria.timeBetweenMeasurementsMs }

def identity? (criteria : FixCriteria) : Option ApplicationIdentity :=
  if criteria.credentials.isEmpty then none else some ⟨criteria.credentials, criteria.provider⟩

/-- The start request for some criteria; a background mode lowers the accuracy, but neither the
interval nor the scan limit follows it. -/
def start (criteria : FixCriteria) : StartRequest where
  sessionId := GnssAdapter.sessionId
  minIntervalMs := criteria.intervalMs
  horizontalAccuracy :=
    if criteria.powerMode.any PowerMode.isBackground then .low else criteria.accuracyLevel
  positionReportTimeoutMs := if criteria.accuracyLevel = .low then some 60000 else none
  recurrence := criteria.recurrence
  sharePosition := criteria.sharePosition
  applicationId := criteria.identity?
  altitudeAssumedInSatelliteInfo := false
  powerMode := criteria.powerSetting?

end FixCriteria

end GnssAdapter
