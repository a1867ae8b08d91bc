import GnssAdapter.Network.Notification
import GnssAdapter.Text.Hex

/-!
What is shown for a network-initiated request.

Texts of the network are passed on as the hexadecimal form of their bytes. The client address of a
control-plane request is a packed decimal number: two digits to a byte, the low half first, the
first half byte that is no digit ending the number.
-/

namespace GnssAdapter

namespace ClientAddress

/-- The type-of-number byte that announces an international number. -/
def internationalMark : UInt8 := 0x91

/-- The characters of an address in the order of their codes; code fifteen is a filler. -/
def alphabet : List Char :=
  ['0', '1', '2', '3', '4', '5', '6', '7', '8', '9', '*', '#', 'a', 'b', 'c']

def digit? (half : Nat) : Option Char :=
  alphabet[half]?

/-- The halves of each byte, the low one first. -/
def halves (bytes : List UInt8) : List Nat :=
  bytes.flatMap fun byte => [byte.toNat % 16, byte.toNat / 16]

/-- The digits before the first half that is none. -/
def digits : List Nat → List Char
  | [] => []
  | half :: rest =>
      match digit? half with
      | some digit => digit :: digits rest
      | none => []

/-- The address that packed bytes stand for; a plus sign marks an international number. -/
def unpack : List UInt8 → List Char
  | [] => []
  | first :: rest =>
      if first = internationalMark then '+' :: digits (halves rest)
      else digits (halves (first :: rest))

end ClientAddress

def NiDataCodingScheme.encoding : NiDataCodingScheme → NiEncoding
  | .suplUtf8 => .utf8
  | .suplUcs2 => .ucs2
  | .suplGsmDefault | .ssLanguageUnspec => .gsm
  | .unknown => .none

namespace NiPrivacyClass

/-- What the user is asked for. -/
def options : NiPrivacyClass → Mask NiOption
  | .noNotifyNoVerify => ∅
  | .notifyOnly => .single .notification
  | .notifyVerifyAllowNoResp | .notifyVerifyNotAllowNoResp => .ofList [.notification, .verification]
  | .privacyOverride => .single .privacyOverride

/-- What counts as the answer of a user who does not respond. -/
def silentAnswer : NiPrivacyClass → NiResponse
  | .notifyVerifyAllowNoResp => .accept
  | .notifyVerifyNotAllowNoResp => .deny
  | .noNotifyNoVerify | .notifyOnly | .privacyOverride => .noResponse

end NiPrivacyClass

/-- The hexadecimal form of a text of the network. -/
def hexText (bytes : ByteArray) : String :=
  Text.upperHex bytes.toList

namespace NiRequest

/-- Seconds that the user has to respond. -/
def responseTimeS : UInt32 := 20

/-- A notification without texts. -/
def blank (request : NiRequest) (kind : NiType) : NiNotification where
  kind
  options := request.notificationType.options
  timeoutS := responseTimeS
  timeoutResponse := request.notificationType.silentAnswer
  requestor := ""
  requestorEncoding := .none
  message := ""
  messageEncoding := .none
  extras := ""

def ofVoice (request : NiRequest) (payload : NiVoicePayload) : NiNotification :=
  { request.blank .voice with requestor := hexText payload.requestorId }

def ofControlPlane (request : NiRequest) (payload : NiControlPlanePayload) : NiNotification :=
  { request.blank .controlPlane with
    requestor := hexText payload.requestorId.text
    requestorEncoding := payload.requestorId.dataCodingScheme.encoding
    message := hexText payload.notificationText
    messageEncoding := payload.dataCodingScheme.encoding
    extras :=
      if payload.clientAddress.isEmpty then ""
      else "Address = " ++ String.ofList (ClientAddress.unpack payload.clientAddress.toList) }

def ofSupl (request : NiRequest) (payload : NiSuplPayload) : NiNotification :=
  let encoding := (payload.dataCodingScheme.map NiDataCodingScheme.encoding).getD .none
  { request.blank (if request.suplEmergency.isSome then .emergencySupl else .supl) with
    requestor := (payload.requestorId.map fun coded => hexText coded.text).getD ""
    requestorEncoding := encoding
    message := (payload.clientName.map fun coded => hexText coded.text).getD ""
    messageEncoding := encoding }

/-- The notification of the first payload that is present: voice, control plane, user plane. -/
def notification? (request : NiRequest) : Option NiNotification :=
  match request.vx, request.umtsCp, request.supl with
  | some payload, _, _ => some (request.ofVoice payload)
  | none, some payload, _ => some (request.ofControlPlane payload)
  | none, none, some payload => some (request.ofSupl payload)
  | none, none, none => none

end NiRequest

end GnssAdapter
