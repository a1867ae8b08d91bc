import GnssAdapter.Message.Indication
import GnssAdapter.Report.Accuracy
import GnssAdapter.Report.Callback

/-!
Replies to zero-power position queries.

Both replies are always passed on; one without a usable horizontal fix carries no coordinates.
-/

namespace GnssAdapter

/-- Coordinates and accuracy, if latitude, longitude and uncertainty are all known. -/
def horizontalFix? (latitude longitude : Option Float) (uncertainty : Option Float32)
    (confidence : Option UInt8) : Option (Coordinates × Float32) := do
  let latitude ← latitude
  let longitude ← longitude
  let uncertainty ← uncertainty
  let accuracy :=
    match confidence with
    | some confidence => accuracyAt68 uncertainty confidence true
    | none => uncertainty
  some (⟨latitude, longitude⟩, accuracy)

namespace WwanPositionReply

/-- The location of a reply at a time. -/
def location (reply : WwanPositionReply) (timestampMs : UInt64) : Location :=
  match horizontalFix? reply.latitude reply.longitude reply.circularUncertainty
      reply.circularConfidence with
  | some (coordinates, accuracy) =>
      { coordinates := some coordinates
        altitude := reply.altitude.map Float32.toFloat
        accuracy := some accuracy
        verticalAccuracy := reply.verticalUncertainty
        timestampMs }
  | none => { timestampMs }

end WwanPositionReply

namespace BestAvailableReply

/-- The callback of a reply at a time. -/
def callback (reply : BestAvailableReply) (timestampMs : UInt64) : Callback :=
  match horizontalFix? reply.latitude reply.longitude reply.circularUncertainty
      reply.circularConfidence with
  | some (coordinates, accuracy) =>
      .bestAvailableFix
        { coordinates := some coordinates
          altitude := reply.altitude.map Float32.toFloat
          speed := reply.speed
          bearing := reply.heading
          accuracy := some accuracy
          timestampMs
          spoofMask := reply.spoofMask }
        { verticalUncertainty := reply.verticalUncertainty
          speedUncertainty := reply.speedUncertainty
          bearingUncertainty := reply.headingUncertainty }
        ((reply.technologies.map reportedTechnologies).getD ∅)
  | none => .bestAvailableFix { timestampMs } {} ∅

end BestAvailableReply

namespace PositionReply

/-- The UTC time that the engine gives. -/
def timestampUtcMs : PositionReply → Option UInt64
  | .wwanPosition reply => reply.timestampUtcMs
  | .bestAvailablePosition reply => reply.timestampUtcMs

/-- The callback of a reply at a time. -/
def callback (reply : PositionReply) (timestampMs : UInt64) : Callback :=
  match reply with
  | .wwanPosition reply => .wwanFix (reply.location timestampMs)
  | .bestAvailablePosition reply => reply.callback timestampMs

end PositionReply

end GnssAdapter
