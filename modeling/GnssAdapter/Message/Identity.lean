import GnssAdapter.Message.Request

/-!
The message that carries each request.
-/

namespace GnssAdapter

def Request.id : Request → MessageId
  | .registerMasterClient _ => .registerMasterClient
  | .setOperationMode _ => .setOperationMode
  | .start _ => .start
  | .stop _ => .stop
  | .injectTime _ => .injectTime
  | .injectPosition _ => .injectPosition
  | .deleteServiceData _ => .deleteServiceData
  | .deleteAssistData _ => .deleteAssistData
  | .answerNi _ => .answerNi
  | .setServer _ => .setServer
  | .injectPredictedOrbits _ => .injectPredictedOrbits
  | .getPredictedOrbitsSource => .getPredictedOrbitsSource
  | .informConnectionStatus _ => .informConnectionStatus
  | .setProtocol _ => .setProtocol
  | .setNmeaTypes _ => .setNmeaTypes
  | .setSensorProperties _ => .setSensorProperties
  | .setSensorControl _ => .setSensorControl
  | .setEngineLock _ => .setEngineLock
  | .getEngineLock _ => .getEngineLock
  | .setXtraCheck _ => .setXtraCheck
  | .injectCertificate _ => .injectCertificate
  | .deleteCertificate _ => .deleteCertificate
  | .setReportSubscription _ => .setReportSubscription
  | .constrainTimeUncertainty _ => .constrainTimeUncertainty
  | .setPositionAssistedClock _ => .setPositionAssistedClock
  | .queryEnergyConsumed => .queryEnergyConsumed
  | .getWwanPosition => .getWwanPosition
  | .getBestAvailablePosition => .getBestAvailablePosition
  | .setBlacklist _ => .setBlacklist
  | .getBlacklist => .getBlacklist
  | .setConstellations _ => .setConstellations
  | .getConstellations => .getConstellations
  | .queryAlwaysOn _ => .queryAlwaysOn
  | .getSupportedFeatures => .getSupportedFeatures
  | .notifyWifi _ => .notifyWifi

end GnssAdapter
