import GnssAdapter.Message.Answer

/-!
Predicted-orbit data in parts.

Data is sent in parts of a fixed size, the last one being shorter. The parts are numbered from one,
and the engine acknowledges each by its number.
-/

namespace GnssAdapter

namespace OrbitsPart

/-- Bytes of a part at most. -/
def capacity : Nat := 1024

/-- The count of parts for a number of bytes. -/
def countFor (size : Nat) : Nat :=
  (size + capacity - 1) / capacity

/-- The part at an index, counted from zero. -/
def ofIndex (data : ByteArray) (index : Nat) : OrbitsPart where
  totalSize := UInt32.ofNat data.size
  totalParts := UInt16.ofNat (countFor data.size)
  partNum := UInt16.ofNat (index + 1)
  data := data.extract (index * capacity) ((index + 1) * capacity)

/-- All parts of some data, unless it is empty or has more parts than can be numbered. -/
def split? (data : ByteArray) : Option (List OrbitsPart) :=
  if data.isEmpty || UInt16.size ≤ countFor data.size then none
  else some ((List.range (countFor data.size)).map (ofIndex data))

end OrbitsPart

/-- The engine has taken a part and says which. -/
def Answer.acknowledges (answer : Answer) (part : OrbitsPart) : Bool :=
  match answer.payload? with
  | some (.predictedOrbitsPart number) => number == part.partNum
  | _ => false

end GnssAdapter
