import GnssAdapter.Message.Indication
import GnssAdapter.Report.Callback

/-!
What the engine asks the host for: data connections, Wi-Fi positions and predicted orbits.
-/

namespace GnssAdapter

namespace ServerConnectionIndication

/-- What a connection is for: the wireless LAN bearer decides, else the kind of WWAN. -/
def purpose (indication : ServerConnectionIndication) : AgpsType :=
  if indication.bearerType = some .wlan then .wifi
  else
    match indication.wwanType with
    | .agnss => .supl
    | .agnssEmergency => .suplEs
    | .internet | .other => .wwanAny

def callback (indication : ServerConnectionIndication) : Callback :=
  match indication.requestType with
  | .opening =>
      .openDataCall indication.connection indication.purpose
        ((indication.apnTypes.map reportedApnTypes).getD ∅)
  | .closing => .closeDataCall indication.connection

end ServerConnectionIndication

namespace WifiIndication

def kind? (indication : WifiIndication) : Option OdcpiRequestKind :=
  match indication.requestType with
  | .startPeriodicHiFreqFixes | .startPeriodicKeepWarm => some .start
  | .stopPeriodicFixes => some .stop
  | .other => none

/-- A request of a known kind; emergency mode is exactly the code one. -/
def request? (indication : WifiIndication) : Option OdcpiRequest :=
  indication.kind?.map fun kind =>
    { requestType := kind
      isEmergency := indication.emergencyMode == some 1
      intervalMs := indication.intervalMs }

def callbacks (indication : WifiIndication) : List Callback :=
  (indication.request?.map Callback.onDemandPosition).toList

end WifiIndication

namespace OrbitServers

/-- Servers that are passed on at most. -/
def limit : Nat := 3

/-- The first servers of a list, unless it is empty. -/
def callbacks (urls : List String) : List Callback :=
  if urls.isEmpty then [] else [.orbitServers (urls.take limit)]

end OrbitServers

/-- The servers come before the request. -/
def PredictedOrbitsIndication.callbacks (indication : PredictedOrbitsIndication) : List Callback :=
  OrbitServers.callbacks indication.serverList ++ [.requestOrbits]

end GnssAdapter
