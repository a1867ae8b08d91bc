import GnssAdapter.Flag
import GnssAdapter.Enumeration

/-!
Network-initiated positioning: the request as the network sends it, and the notification that is
shown for it.
-/

namespace GnssAdapter

/-- Whether the user is told of a request, and asked about it. -/
inductive NiPrivacyClass where
  | noNotifyNoVerify | notifyOnly | notifyVerifyAllowNoResp | notifyVerifyNotAllowNoResp
  | privacyOverride
  deriving DecidableEq

instance : Enumeration NiPrivacyClass where
  names := [
    (.noNotifyNoVerify, "NoNotifyNoVerify"),
    (.notifyOnly, "NotifyOnly"),
    (.notifyVerifyAllowNoResp, "NotifyVerifyAllowNoResp"),
    (.notifyVerifyNotAllowNoResp, "NotifyVerifyNotAllowNoResp"),
    (.privacyOverride, "PrivacyOverride")]

/-- How the network codes a text. -/
inductive NiDataCodingScheme where
  | suplUtf8 | suplUcs2 | suplGsmDefault | ssLanguageUnspec | unknown
  deriving DecidableEq

instance : Enumeration NiDataCodingScheme where
  names := [
    (.suplUtf8, "SuplUtf8"),
    (.suplUcs2, "SuplUcs2"),
    (.suplGsmDefault, "SuplGsmDefault"),
    (.ssLanguageUnspec, "SsLanguageUnspec"),
    (.unknown, "Unknown")]

structure NiCodedText where
  dataCodingScheme : NiDataCodingScheme := .unknown
  text : ByteArray := .empty

structure NiVoicePayload where
  encodingScheme : UInt8 := 0
  requestorId : ByteArray := .empty
  positionMode : UInt8 := 0

structure NiControlPlanePayload where
  dataCodingScheme : NiDataCodingScheme := .unknown
  notificationText : ByteArray := .empty
  requestorId : NiCodedText := {}
  clientAddress : ByteArray := .empty

structure NiSuplPayload where
  clientName : Option NiCodedText := none
  requestorId : Option NiCodedText := none
  dataCodingScheme : Option NiDataCodingScheme := none

structure NiSuplExtension where
  supportedNetworksMask : UInt16 := 0
  triggerType : Int8 := 0
  gnssType : UInt16 := 0

structure NiEmergency where
  eslpUrl : String := ""

/-- A request of the network to locate the user; what it carries depends on how it came. -/
structure NiRequest where
  notificationType : NiPrivacyClass
  vx : Option NiVoicePayload
  umtsCp : Option NiControlPlanePayload
  supl : Option NiSuplPayload
  vxServiceInteraction : Option NiVoicePayload
  suplVer2Extended : Option NiSuplExtension
  suplEmergency : Option NiEmergency

inductive NiType where
  | voice | controlPlane | supl | emergencySupl
  deriving DecidableEq

instance : Enumeration NiType where
  names := [
    (.voice, "Voice"),
    (.controlPlane, "ControlPlane"),
    (.supl, "Supl"),
    (.emergencySupl, "EmergencySupl")]

/-- How a text is to be decoded before it is shown. -/
inductive NiEncoding where
  | none | gsm | utf8 | ucs2
  deriving DecidableEq

instance : Enumeration NiEncoding where
  names := [
    (.none, "None"),
    (.gsm, "Gsm"),
    (.utf8, "Utf8"),
    (.ucs2, "Ucs2")]

inductive NiResponse where
  | accept | deny | noResponse
  deriving DecidableEq

instance : Enumeration NiResponse where
  names := [
    (.accept, "Accept"),
    (.deny, "Deny"),
    (.noResponse, "NoResponse")]

inductive NiOption where
  | notification | verification | privacyOverride
  deriving DecidableEq

instance : Flag NiOption where
  width := 32
  layout := [
    (.notification, 0, "NOTIFICATION"),
    (.verification, 1, "VERIFICATION"),
    (.privacyOverride, 2, "PRIVACY_OVERRIDE")]

/-- What the user is shown. -/
structure NiNotification where
  kind : NiType
  options : Mask NiOption
  timeoutS : UInt32
  timeoutResponse : NiResponse
  requestor : String
  requestorEncoding : NiEncoding
  message : String
  messageEncoding : NiEncoding
  extras : String

end GnssAdapter
