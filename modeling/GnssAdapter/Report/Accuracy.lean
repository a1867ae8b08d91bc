import GnssAdapter.Report.Location
import GnssAdapter.Gnss.Satellite

/-!
Accuracies at a common confidence, and the satellites that a fix has used.
-/

namespace GnssAdapter

/-- The scale from a confidence in percent to one of 68 percent: the first bound that covers the
confidence decides. -/
def confidenceScale? (confidence : UInt8) : Option Float32 :=
  if confidence ≤ 39 then some 1.517
  else if confidence ≤ 50 then some 1.287
  else if confidence ≤ 63 then some 1.072
  else none

/-- An accuracy at 68 percent. A circular uncertainty counts as one of 63 percent, unless its
confidence is at least 68 already. -/
def accuracyAt68 (accuracy : Float32) (confidence : UInt8) (circular : Bool) : Float32 :=
  if 68 ≤ confidence then accuracy
  else
    match confidenceScale? (if circular then 63 else confidence) with
    | some scale => accuracy * scale
    | none => accuracy

namespace UsedSatellites

/-- Marks the satellite at a place of a constellation. -/
def set (used : UsedSatellites) (place : UInt16) : Constellation → UsedSatellites
  | .gps => { used with gps := used.gps ||| 1 <<< place.toUInt64 }
  | .glonass => { used with glonass := used.glonass ||| 1 <<< place.toUInt64 }
  | .qzss => { used with qzss := used.qzss ||| 1 <<< place.toUInt64 }
  | .beidou => { used with bds := used.bds ||| 1 <<< place.toUInt64 }
  | .galileo => { used with galileo := used.galileo ||| 1 <<< place.toUInt64 }
  | .sbas | .unknown => used

/-- Marks a satellite by its number and names its constellation; a number outside every range
marks nothing. -/
def mark (used : UsedSatellites) (id : UInt16) : UsedSatellites × Option Constellation :=
  match Constellation.ofPrn? id with
  | some (constellation, place) => (used.set place constellation, some constellation)
  | none => (used, none)

/-- The set bits below a place. -/
def countBelow (bits : UInt64) (size : Nat) : Nat :=
  ((List.range size).filter bits.toNat.testBit).length

/-- Satellites used, each mask cut to the size of its constellation. -/
def count (used : UsedSatellites) : UInt8 :=
  let total := countBelow used.gps PrnRange.gps.size +
    countBelow used.glonass PrnRange.glonass.size +
    countBelow used.qzss PrnRange.qzss.size + countBelow used.bds PrnRange.beidou.size +
    countBelow used.galileo PrnRange.galileo.size
  if total < 256 then UInt8.ofNat total else 255

end UsedSatellites

end GnssAdapter
