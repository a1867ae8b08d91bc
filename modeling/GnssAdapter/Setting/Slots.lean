import GnssAdapter.Setting.Value

/-!
Certificate slots.

A mask selects slots; each selected slot takes the next certificate. Where none is left, or where
the next one is empty, the slot is cleared.
-/

namespace GnssAdapter

/-- What is done to a slot. -/
inductive SlotStep where
  | inject (certificate : Certificate)
  /-- The certificate is too long to be sent. -/
  | skip
  | clear

namespace SlotStep

/-- Slots of the engine. -/
def slotCount : Nat := 10

/-- Bytes of a certificate at most. -/
def longest : Nat := 2000

/-- The selected slots, in ascending order. -/
def selected (mask : UInt32) : List UInt8 :=
  ((List.range slotCount).filter mask.toNat.testBit).map UInt8.ofNat

/-- The step for a certificate that is not empty. -/
def ofCertificate (certificate : Certificate) : SlotStep :=
  if longest < certificate.data.size then .skip else .inject certificate

/-- The steps for some slots. An empty certificate is not used up: it clears every slot from there
on. -/
def plan : List UInt8 → List Certificate → List (UInt8 × SlotStep)
  | [], _ => []
  | slot :: slots, [] => (slot, .clear) :: plan slots []
  | slot :: slots, certificate :: rest =>
      if certificate.data.isEmpty then (slot, .clear) :: plan slots (certificate :: rest)
      else (slot, ofCertificate certificate) :: plan slots rest

end SlotStep

end GnssAdapter
