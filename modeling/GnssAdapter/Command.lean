import GnssAdapter.Adapter.Aiding
import GnssAdapter.Adapter.Session
import GnssAdapter.Adapter.Setting

/-!
The commands of an adapter and what they come to.
-/

namespace GnssAdapter

inductive Command where
  /-- Opens the connection, if it is closed, and subscribes events. -/
  | connect (events : Mask AdapterEvent)
  | disconnect
  | subscribe (events : Mask AdapterEvent)
  | startFix (criteria : FixCriteria)
  | stopFix
  | changeCriteria (criteria : FixCriteria)
  | injectTime (utcMs referenceMs : UInt64) (uncertaintyMs : UInt32)
  | injectPosition (coordinates : Coordinates) (accuracy : Float32)
  | injectLocation (location : Location) (onDemand : Bool)
  | injectLocationInfo (info : LocationInfo) (onDemand : Bool)
  | deleteAidingData (data : AidingData)
  | requestAidingData (databases : Mask SatelliteDatabase)
  | injectOrbits (data : ByteArray)
  | requestOrbitServers
  | setXtraCheck (code : UInt32)
  | setBlacklist (blacklist : SatelliteBlacklist)
  /-- The blacklist arrives later, as an event. -/
  | getBlacklist
  | setConstellations (config : ConstellationConfig)
  | getConstellations
  | resetConstellations
  | setSuplVersion (version : SuplVersion)
  | setLppProfile (profile : LppProfile)
  | setAGlonassProtocol (protocols : Mask AGlonassProtocol)
  | setLppeControlPlane (capabilities : Mask LppeCapability)
  | setLppeUserPlane (capabilities : Mask LppeCapability)
  | setNmeaTypes (types : UInt32)
  | setSensorProperties (properties : SensorProperties)
  | setSensorControl (control : SensorControl)
  | setLock (lock : PositioningLock)
  | getLock (subscription : LockSubscription)
  | constrainTimeUncertainty (enabled : Bool) (constraint : Float32) (budget : UInt32)
  | setPositionAssistedClock (enabled : Bool)
  | getEnergyConsumed
  /-- Answers a network-initiated request, which is quoted. -/
  | answerNi (response : NiResponse) (request : NiRequest)
  | setServerUrl (url : String) (kind : ServerKind)
  | setServerAddress (address : UInt32) (port : UInt16) (kind : ServerKind)
  | reportCallOpened (connection : UInt32) (success : Bool) (apn : String) (bearer : AgpsBearer)
      (apnTypes : Mask ApnType)
  | reportCallClosed (connection : UInt32) (success : Bool)
  | installCertificates (certificates : List Certificate) (slots : UInt32)
  | getWwanPosition
  | getBestAvailablePosition

/-- What a command that has succeeded gives back. -/
inductive Returned where
  | done
  | bytes (count : Nat)
  | lock (lock : PositioningLock)

abbrev CommandResult := Except AdapterError Returned

namespace CommandResult

def ofClient : Except ClientError Unit → CommandResult
  | .ok () => .ok .done
  | .error error => .error (.client error)

def ofLocation {α : Type} (returned : α → Returned) : Except LocationError α → CommandResult
  | .ok value => .ok (returned value)
  | .error error => .error (.location error)

end CommandResult

namespace AdapterM

variable {σ : Type} [Environment σ]

/-- A command that may be refused. -/
def attempt (operation : AdapterM σ (Except LocationError Unit)) : AdapterM σ CommandResult :=
  .ofLocation (fun _ => .done) <$> operation

/-- A command that cannot fail as far as its caller is concerned. -/
def always {α : Type} (operation : AdapterM σ α) : AdapterM σ CommandResult :=
  (fun _ => .ok .done) <$> operation

def execute : Command → AdapterM σ CommandResult
  | .connect events => .ofClient <$> openConnection events
  | .disconnect => .ofClient <$> closeConnection
  | .subscribe events => always (AdapterM.subscribe events)
  | .startFix criteria => attempt (AdapterM.startFix criteria)
  | .stopFix => attempt AdapterM.stopFix
  | .changeCriteria criteria => attempt (AdapterM.changeCriteria criteria)
  | .injectTime utcMs referenceMs uncertaintyMs =>
      attempt (AdapterM.injectTime utcMs referenceMs uncertaintyMs)
  | .injectPosition coordinates accuracy =>
      attempt (AdapterM.injectPosition coordinates accuracy)
  | .injectLocation location onDemand => attempt (AdapterM.injectLocation location onDemand)
  | .injectLocationInfo info onDemand => attempt (AdapterM.injectLocationInfo info onDemand)
  | .deleteAidingData data => attempt (AdapterM.deleteAidingData data)
  | .requestAidingData databases => always (AdapterM.requestAidingData databases)
  | .injectOrbits data => .ofLocation .bytes <$> AdapterM.injectOrbits data
  | .requestOrbitServers => attempt AdapterM.requestOrbitServers
  | .setXtraCheck code => attempt (complete (.setXtraCheck (XtraVersionCheck.ofCode code).native))
  | .setBlacklist blacklist => attempt (confirm (.setBlacklist blacklist.setting))
  | .getBlacklist => attempt (query .getBlacklist)
  | .setConstellations config => attempt (confirm (.setConstellations config.setting))
  | .getConstellations => attempt AdapterM.getConstellations
  | .resetConstellations => attempt (confirm (.setConstellations { reset := true }))
  | .setSuplVersion version =>
      attempt (complete (.setProtocol { suplVersion := some version.native }))
  | .setLppProfile profile => attempt (complete (.setProtocol { lppPlanes := some profile.planes }))
  | .setAGlonassProtocol protocols =>
      attempt (complete (.setProtocol { assistedGlonassProtocol := some protocols }))
  | .setLppeControlPlane capabilities =>
      attempt (complete (.setProtocol { lppeControlPlane := some capabilities }))
  | .setLppeUserPlane capabilities =>
      attempt (complete (.setProtocol { lppeUserPlane := some capabilities }))
  | .setNmeaTypes types => attempt (AdapterM.setNmeaTypes types)
  | .setSensorProperties properties => attempt (confirm (.setSensorProperties properties))
  | .setSensorControl control => attempt (confirm (.setSensorControl control.setting))
  | .setLock lock => attempt (complete (.setEngineLock { lock := lock.engine, subType := .all }))
  | .getLock subscription => .ofLocation .lock <$> AdapterM.getLock subscription
  | .constrainTimeUncertainty enabled constraint budget =>
      attempt (complete (.constrainTimeUncertainty (.ofValues enabled constraint budget)))
  | .setPositionAssistedClock enabled => attempt (complete (.setPositionAssistedClock enabled))
  | .getEnergyConsumed => attempt AdapterM.getEnergyConsumed
  | .answerNi response request =>
      attempt (complete (.answerNi { response := response.user, request }))
  | .setServerUrl url kind => attempt (AdapterM.setServerUrl url kind)
  | .setServerAddress address port kind => attempt (AdapterM.setServerAddress address port kind)
  | .reportCallOpened connection success apn bearer apnTypes =>
      let status := DataCallStatus.opened connection success apn bearer apnTypes
      always (exchange (.informConnectionStatus status))
  | .reportCallClosed connection success =>
      always (exchange (.informConnectionStatus (.closed connection success)))
  | .installCertificates certificates slots =>
      always (AdapterM.installCertificates certificates slots)
  | .getWwanPosition => attempt (query .getWwanPosition)
  | .getBestAvailablePosition => attempt (query .getBestAvailablePosition)

end AdapterM

/-- A view of where an adapter stands. -/
structure Status where
  phase : Phase
  requestedMask : Mask AdapterEvent
  registeredMask : Mask NativeEvent
  engineOn : Bool
  pendingReplays : Nat
  serviceDeletionKnown : Bool
  masterUnsupported : Bool
  isMaster : Bool

def Adapter.status {σ : Type} (adapter : Adapter σ) : Status where
  phase := adapter.state.phase
  requestedMask := adapter.state.requestedMask
  registeredMask := adapter.state.registeredMask
  engineOn := adapter.state.engineOn
  pendingReplays := adapter.replays.length
  serviceDeletionKnown := adapter.state.serviceDeletionKnown
  masterUnsupported := adapter.state.masterUnsupported
  isMaster := adapter.isMaster

end GnssAdapter
