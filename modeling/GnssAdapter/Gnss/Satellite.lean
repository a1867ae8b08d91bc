import GnssAdapter.Gnss.Constellation

/-!
Satellite numbers and carrier frequencies of the constellations.
-/

namespace GnssAdapter

/-- An inclusive range of satellite numbers. -/
structure PrnRange where
  first : UInt16
  last : UInt16

namespace PrnRange

def contains (range : PrnRange) (id : UInt16) : Bool :=
  range.first ≤ id && id ≤ range.last

def size (range : PrnRange) : Nat :=
  range.last.toNat + 1 - range.first.toNat

def gps : PrnRange := ⟨1, 32⟩
def glonass : PrnRange := ⟨65, 96⟩
def qzss : PrnRange := ⟨193, 197⟩
def beidou : PrnRange := ⟨201, 237⟩
def galileo : PrnRange := ⟨301, 336⟩

end PrnRange

namespace Constellation

/-- The constellations whose satellites are told apart by their number. -/
def numbered : List (Constellation × PrnRange) :=
  [(.gps, .gps), (.glonass, .glonass), (.qzss, .qzss), (.beidou, .beidou), (.galileo, .galileo)]

/-- The constellation of a satellite number and the satellite's place in it. -/
def ofPrn? (id : UInt16) : Option (Constellation × UInt16) :=
  (numbered.find? fun entry => entry.2.contains id).map fun entry => (entry.1, id - entry.2.first)

/-- The signal assumed when the engine reports none. -/
def defaultSignal : Constellation → Mask Signal
  | .gps => .single .gpsL1ca
  | .sbas => .single .sbasL1Ca
  | .glonass => .single .glonassG1
  | .qzss => .single .qzssL1ca
  | .beidou => .single .beidouB1I
  | .galileo => .single .galileoE1C
  | .unknown => ∅

end Constellation

/-- Subtraction that stops at zero. -/
def lowered (id offset : UInt16) : UInt16 :=
  if offset ≤ id then id - offset else 0

/-- Constellation and number of a satellite in a visibility report. -/
def SatelliteSystem.visible (id : UInt16) : SatelliteSystem → Constellation × UInt16
  | .gps => (.gps, id)
  | .galileo => (.galileo, lowered id 300)
  | .sbas => (.sbas, id)
  | .glonass => (.glonass, id)
  | .bds | .compass => (.beidou, lowered id 200)
  | .qzss => (.qzss, lowered id 192)
  | .unknown => (.unknown, id)

/-- Steps of a GLONASS frequency channel above the centre; channels 1 to 14 stand for -7 to 6. -/
def channelSteps (channel : UInt8) : Float32 :=
  if 1 ≤ channel && channel ≤ 14 then channel.toFloat32 - 8 else 0

namespace Signal

/-- The carrier frequency in Hz; GLONASS signals are shifted by their frequency channel. -/
def carrier (channel : UInt8) : Signal → Float32
  | .gpsL1ca | .gpsL1c => 1575420000
  | .gpsL2cL => 1227600000
  | .gpsL5Q => 1176450000
  | .glonassG1 => 1602000000 + channelSteps channel * 562500
  | .glonassG2 => 1246000000 + channelSteps channel * 437500
  | .galileoE1C => 1575420000
  | .galileoE5aQ => 1176450000
  | .galileoE5bQ => 1207140000
  | .beidouB1I => 1561098000
  | .beidouB1C => 1575420000
  | .beidouB2I => 1207140000
  | .beidouB2aI => 1176450000
  | .qzssL1ca | .qzssL1s => 1575420000
  | .qzssL2cL => 1227600000
  | .qzssL5Q => 1176450000
  | .sbasL1Ca => 1575420000

/-- The carrier frequency of a mask of exactly one signal; zero for every other mask. -/
def carrierOf (signals : Mask Signal) (channel : UInt8) : Float32 :=
  match (Flag.all Signal).find? fun signal => .single signal = signals with
  | some signal => signal.carrier channel
  | none => 0

end Signal

end GnssAdapter
