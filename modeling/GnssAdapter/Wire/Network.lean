import GnssAdapter.Codec
import GnssAdapter.Network.Apn
import GnssAdapter.Network.Notification
import GnssAdapter.Network.DataCall

/-!
Written forms of network records.
-/

namespace GnssAdapter

instance : Codec NiCodedText := .record <| NiCodedText.mk
  <$> field "data_coding_scheme" (·.dataCodingScheme)
  <*> field "text" (·.text)

instance : Codec NiVoicePayload := .record <| NiVoicePayload.mk
  <$> field "encoding_scheme" (·.encodingScheme)
  <*> field "requestor_id" (·.requestorId)
  <*> field "position_mode" (·.positionMode)

instance : Codec NiControlPlanePayload := .record <| NiControlPlanePayload.mk
  <$> field "data_coding_scheme" (·.dataCodingScheme)
  <*> field "notification_text" (·.notificationText)
  <*> field "requestor_id" (·.requestorId)
  <*> field "client_address" (·.clientAddress)

instance : Codec NiSuplPayload := .record <| NiSuplPayload.mk
  <$> field "client_name" (·.clientName)
  <*> field "requestor_id" (·.requestorId)
  <*> field "data_coding_scheme" (·.dataCodingScheme)

instance : Codec NiSuplExtension := .record <| NiSuplExtension.mk
  <$> field "supported_networks_mask" (·.supportedNetworksMask)
  <*> field "trigger_type" (·.triggerType)
  <*> field "gnss_type" (·.gnssType)

instance : Codec NiEmergency := .record <| NiEmergency.mk
  <$> field "eslp_url" (·.eslpUrl)

instance : Codec NiRequest := .record <| NiRequest.mk
  <$> field "notification_type" (·.notificationType)
  <*> field "vx" (·.vx)
  <*> field "umts_cp" (·.umtsCp)
  <*> field "supl" (·.supl)
  <*> field "vx_service_interaction" (·.vxServiceInteraction)
  <*> field "supl_ver2_ext" (·.suplVer2Extended)
  <*> field "supl_emergency" (·.suplEmergency)

instance : Codec NiNotification := .record <| NiNotification.mk
  <$> field "ni_type" (·.kind)
  <*> field "options" (·.options)
  <*> field "timeout_s" (·.timeoutS)
  <*> field "timeout_response" (·.timeoutResponse)
  <*> field "requestor" (·.requestor)
  <*> field "requestor_encoding" (·.requestorEncoding)
  <*> field "message" (·.message)
  <*> field "message_encoding" (·.messageEncoding)
  <*> field "extras" (·.extras)

instance : Codec OdcpiRequest := .record <| OdcpiRequest.mk
  <$> field "request_type" (·.requestType)
  <*> field "is_emergency" (·.isEmergency)
  <*> field "tbf_ms" (·.intervalMs)

end GnssAdapter
