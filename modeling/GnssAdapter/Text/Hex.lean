/-!
Hexadecimal digits: numbers and byte strings written in base sixteen.
-/

namespace GnssAdapter.Text

def hexDigit? (character : Char) : Option Nat :=
  if '0' ≤ character ∧ character ≤ '9' then some (character.toNat - '0'.toNat)
  else if 'a' ≤ character ∧ character ≤ 'f' then some (character.toNat - 'a'.toNat + 10)
  else if 'A' ≤ character ∧ character ≤ 'F' then some (character.toNat - 'A'.toNat + 10)
  else none

def lowerHexDigit (value : Nat) : Char :=
  if value < 10 then Char.ofNat ('0'.toNat + value) else Char.ofNat ('a'.toNat + value - 10)

def upperHexDigit (value : Nat) : Char :=
  if value < 10 then Char.ofNat ('0'.toNat + value) else Char.ofNat ('A'.toNat + value - 10)

/-- The number a run of hex digits of either case stands for; `none` if a character is no digit. -/
def hexValue? (digits : List Char) : Option Nat :=
  digits.foldlM (fun value digit => (hexDigit? digit).map (16 * value + ·)) 0

/-- Exactly `width` lower-case digits, the high ones dropped if the number is larger. -/
def fixedHex : Nat → Nat → List Char
  | 0, _ => []
  | width + 1, value => fixedHex width (value / 16) ++ [lowerHexDigit (value % 16)]

theorem length_fixedHex (width value : Nat) : (fixedHex width value).length = width := by
  induction width generalizing value with
  | zero => rfl
  | succ width ih => simp [fixedHex, ih]

/-- The fewest lower-case digits of a number. -/
def shortHex (value : Nat) : List Char :=
  Nat.toDigits 16 value

/-- Two upper-case digits per byte, the high half first. -/
def upperHex (bytes : List UInt8) : String :=
  String.ofList (bytes.flatMap fun byte =>
    [upperHexDigit (byte.toNat / 16), upperHexDigit (byte.toNat % 16)])

/-- Two lower-case digits per byte, the high half first. -/
def lowerHex (bytes : List UInt8) : String :=
  String.ofList (bytes.flatMap fun byte =>
    [lowerHexDigit (byte.toNat / 16), lowerHexDigit (byte.toNat % 16)])

/-- The bytes of an even run of hex digits. -/
def hexBytes? : List Char → Option (List UInt8)
  | [] => some []
  | [_] => none
  | high :: low :: rest => do
      let high ← hexDigit? high
      let low ← hexDigit? low
      let bytes ← hexBytes? rest
      some (UInt8.ofNat (16 * high + low) :: bytes)

end GnssAdapter.Text
