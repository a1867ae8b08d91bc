/-!
Bit masks over named flags.

A family of flags gives each flag a bit and a written name. A mask keeps every bit of its width,
also bits that no flag names, so masks of unknown origin pass through unchanged.
-/

namespace GnssAdapter

/-- A family of flags: the width of its masks, and the bit and written name of each flag in the
order in which flags are listed. -/
class Flag (φ : Type) where
  width : Nat
  layout : List (φ × Nat × String)

namespace Flag

variable {φ : Type} [Flag φ]

/-- The bit of a flag. -/
def bit [DecidableEq φ] (flag : φ) : Nat :=
  match layout.find? (fun entry => entry.1 = flag) with
  | some entry => entry.2.1
  | none => 0

variable (φ) in
/-- All flags, in listing order. -/
def all : List φ :=
  layout.map (·.1)

end Flag

/-- A set of flags together with any unnamed bits. -/
structure Mask (φ : Type) [Flag φ] where
  bits : BitVec (Flag.width φ)
  deriving DecidableEq

namespace Mask

variable {φ : Type} [Flag φ]

instance : EmptyCollection (Mask φ) := ⟨⟨0⟩⟩
instance : Union (Mask φ) := ⟨fun left right => ⟨left.bits ||| right.bits⟩⟩
instance : Inter (Mask φ) := ⟨fun left right => ⟨left.bits &&& right.bits⟩⟩
instance : SDiff (Mask φ) := ⟨fun left right => ⟨left.bits &&& ~~~right.bits⟩⟩

/-- The bits in exactly one of two masks. -/
def symmDiff (left right : Mask φ) : Mask φ :=
  ⟨left.bits ^^^ right.bits⟩

/-- Every bit of the second mask is in the first. -/
def contains (mask part : Mask φ) : Bool :=
  mask.bits &&& part.bits == part.bits

/-- Some bit is in both masks. -/
def intersects (left right : Mask φ) : Bool :=
  left.bits &&& right.bits != 0

def isEmpty (mask : Mask φ) : Bool :=
  mask.bits == 0

/-- The mask, unless it is empty. -/
def nonempty? (mask : Mask φ) : Option (Mask φ) :=
  if mask.isEmpty then none else some mask

def toNat (mask : Mask φ) : Nat :=
  mask.bits.toNat

variable (φ) in
/-- The mask with the bits of a number, `none` if the number is too wide. -/
def ofNat? (value : Nat) : Option (Mask φ) :=
  if value < Nat.pow 2 (Flag.width φ) then some ⟨BitVec.ofNat _ value⟩ else none

variable [DecidableEq φ]

/-- The mask of one flag. -/
def single (flag : φ) : Mask φ :=
  ⟨BitVec.twoPow _ (Flag.bit flag)⟩

def has (mask : Mask φ) (flag : φ) : Bool :=
  mask.bits.getLsbD (Flag.bit flag)

def ofList (flags : List φ) : Mask φ :=
  flags.foldl (fun mask flag => mask ∪ single flag) ∅

/-- The named flags of a mask, in listing order. -/
def flags (mask : Mask φ) : List φ :=
  (Flag.all φ).filter mask.has

variable (φ) in
/-- The mask of all named flags. -/
def full : Mask φ :=
  ofList (Flag.all φ)

variable (φ) in
/-- All named flags, or none. -/
def fullIf (wanted : Bool) : Mask φ :=
  if wanted then full φ else ∅

/-- Replaces each named flag by a list of flags of another family; unnamed bits are dropped. -/
def translate {ψ : Type} [Flag ψ] [DecidableEq ψ] (table : φ → List ψ) (mask : Mask φ) : Mask ψ :=
  ofList (mask.flags.flatMap table)

end Mask

end GnssAdapter
