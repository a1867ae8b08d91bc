/-!
Binary floating-point numbers as exact values: a sign, a whole mantissa and a power of two.
-/

namespace GnssAdapter

/-- A binary interchange format by the widths of its two fields. -/
structure BinaryFormat where
  fractionBits : Nat
  exponentBits : Nat

namespace BinaryFormat

def single : BinaryFormat := ⟨23, 8⟩
def double : BinaryFormat := ⟨52, 11⟩

end BinaryFormat

/-- The finite number `mantissa · 2 ^ exponent` with a sign, which zero has too. -/
structure Binary where
  negative : Bool
  mantissa : Nat
  exponent : Int
  /-- The next smaller magnitude is only half as far away as the next larger one. -/
  narrowBelow : Bool

inductive BinaryClass where
  | finite (value : Binary)
  | infinite (negative : Bool)
  | nan

namespace BinaryFormat

variable (format : BinaryFormat)

/-- The value that a bit pattern stands for. -/
def decode (bits : Nat) : BinaryClass :=
  let fraction := bits % Nat.pow 2 format.fractionBits
  let biased := bits / Nat.pow 2 format.fractionBits % Nat.pow 2 format.exponentBits
  let negative := bits.testBit (format.fractionBits + format.exponentBits)
  let least : Int := 2 - Nat.pow 2 (format.exponentBits - 1) - format.fractionBits
  if biased = Nat.pow 2 format.exponentBits - 1 then
    if fraction = 0 then .infinite negative else .nan
  else if biased = 0 then
    .finite ⟨negative, fraction, least, false⟩
  else
    .finite ⟨negative, Nat.pow 2 format.fractionBits + fraction, least + biased - 1,
      fraction = 0 && 1 < biased⟩

end BinaryFormat

namespace Number

def classify64 (value : Float) : BinaryClass :=
  BinaryFormat.double.decode value.toBits.toNat

def classify32 (value : Float32) : BinaryClass :=
  BinaryFormat.single.decode value.toBits.toNat

/-- What is left of a number after taking away a whole divisor as often as it fits; the sign is
that of the number. Exact for every finite number. -/
def remainder (value : Float) (divisor : Nat) : Float :=
  match classify64 value with
  | .finite binary =>
      let whole := binary.mantissa * Nat.pow 2 binary.exponent.toNat
      let scale := (-binary.exponent).toNat
      let rest := (Float.ofNat (whole % (divisor * Nat.pow 2 scale))).scaleB (-scale)
      if binary.negative then -rest else rest
  | _ => 0.0 / 0.0

/-- The larger of two numbers; a number that is no number gives way to the other. -/
def larger (left right : Float) : Float :=
  if right > left || left.isNaN then right else left

/-- The smaller of two numbers; a number that is no number gives way to the other. -/
def smaller (left right : Float) : Float :=
  if right < left || left.isNaN then right else left

/-- The larger of two numbers; a number that is no number gives way to the other. -/
def larger32 (left right : Float32) : Float32 :=
  if right > left || left.isNaN then right else left

end Number

end GnssAdapter
