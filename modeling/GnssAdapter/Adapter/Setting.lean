import GnssAdapter.Adapter.Exchange
import GnssAdapter.Indication.Engine
import GnssAdapter.Setting.Native
import GnssAdapter.Setting.Slots

/-!
Settings of the engine: protocols, sentences, sensors, locks, servers, certificates and
constellations.
-/

namespace GnssAdapter

namespace Answer

/-- The lock of a successful answer. -/
def lock? (answer : Answer) : Option PositioningLock :=
  match answer.payload? with
  | some (.engineLock lock) => lock.map EngineLock.positioning
  | _ => none

/-- The energy of a successful answer. -/
def energy? (answer : Answer) : Option UInt64 :=
  match answer.payload? with
  | some (.energyConsumed sinceFirstBoot) => some sinceFirstBoot
  | _ => none

/-- The constellations of a successful answer, whatever status they carry themselves. -/
def constellations? (answer : Answer) : Option ConstellationReply :=
  match answer.payload? with
  | some (.constellationConfig reply) => some reply
  | _ => none

end Answer

/-- The energy that stands for an unknown one. -/
def unknownEnergy : UInt64 := .ofNat (UInt64.size - 1)

/-- Bytes of a server's URL at most. -/
def longestUrl : Nat := 255

namespace AdapterM

variable {σ : Type} [Environment σ]

/-- Sends the sentence types unless they are those last sent, whether that succeeded or not. -/
def setNmeaTypes (types : UInt32) : AdapterM σ (Except LocationError Unit) := do
  if (← get).state.nmeaTypes = some types then return .ok ()
  let answer ← exchange (.setNmeaTypes types)
  setState fun state => { state with nmeaTypes := some types }
  return answer.verdict

def getLock (subscription : LockSubscription) :
    AdapterM σ (Except LocationError PositioningLock) := do
  let answer ← exchange (.getEngineLock subscription)
  match answer.lock? with
  | some lock => return .ok lock
  | none => return .error .generalFailure

/-- Asks for the energy consumed and reports it, or that it is unknown. -/
def getEnergyConsumed : AdapterM σ (Except LocationError Unit) := do
  let answer ← exchange .queryEnergyConsumed
  match answer.energy? with
  | some energy =>
      notify (.energyConsumed energy)
      return .ok ()
  | none =>
      notify (.energyConsumed unknownEnergy)
      return .error .generalFailure

def getConstellations : AdapterM σ (Except LocationError Unit) := do
  let answer ← exchange .getConstellations
  if let some reply := answer.constellations? then
    notify (.constellations reply.config)
  return answer.completion

def setServerUrl (url : String) (kind : ServerKind) : AdapterM σ (Except LocationError Unit) :=
  if longestUrl < url.utf8ByteSize then return .error .invalidParameter
  else complete (.setServer { serverType := kind.byUrl, address := .url url })

def setServerAddress (address : UInt32) (port : UInt16) (kind : ServerKind) :
    AdapterM σ (Except LocationError Unit) :=
  complete (.setServer { serverType := kind.byAddress, address := .ipv4 ⟨address, port⟩ })

/-- The certificate that stands in a slot until it is deleted. -/
def placeholder : ByteArray := ⟨#[1]⟩

/-- A slot is cleared by deleting what has just been put into it. -/
def installSlot (slot : UInt8) : SlotStep → AdapterM σ Unit
  | .inject certificate =>
      discard <| exchange (.injectCertificate { slot, data := certificate.data })
  | .skip => return
  | .clear => do
      discard <| exchange (.injectCertificate { slot, data := placeholder })
      discard <| exchange (.deleteCertificate slot)

def installCertificates (certificates : List Certificate) (mask : UInt32) : AdapterM σ Unit :=
  (SlotStep.plan (SlotStep.selected mask) certificates).forM fun (slot, step) =>
    installSlot slot step

end AdapterM

end GnssAdapter
