import GnssAdapter.Number.Decimal

/-!
JSON values as they stand in a text.

Nothing is rounded or refused that a later reader may still want to see: a number keeps its
digits, a text keeps lone halves of surrogate pairs, and an object keeps repeated names.
-/

namespace GnssAdapter

/-- A number by its digits. -/
structure JsonNumber where
  negative : Bool
  whole : Nat
  /-- The digits after the point; empty if there is no point. -/
  fraction : List Nat
  exponent : Option Int

/-- A text by its code points. -/
structure JsonText where
  points : List Nat
  /-- A control character stands unescaped in the text. -/
  hasControl : Bool

inductive Json where
  | null
  | bool (value : Bool)
  | number (value : JsonNumber)
  | text (value : JsonText)
  | list (items : List Json)
  | object (fields : List (JsonText × Json))

namespace JsonText

def ofString (text : String) : JsonText :=
  ⟨text.toList.map Char.toNat, false⟩

/-- The character of a code point that is no half of a surrogate pair. -/
def scalar? (point : Nat) : Option Char :=
  if h : point.isValidChar then some ⟨point.toUInt32, by
    have small : point < 2 ^ 32 := by
      rcases h with h | ⟨_, h⟩ <;> omega
    simpa [UInt32.isValidChar, Nat.toUInt32, UInt32.toNat_ofNat_of_lt' small] using h⟩
  else none

/-- The text as characters; refused if it holds lone surrogates or unescaped control characters. -/
def string? (text : JsonText) : Option String :=
  if text.hasControl then none else (text.points.mapM scalar?).map String.ofList

/-- The bytes of one code point, surrogates in the same pattern as other points of that size. -/
def pointBytes (point : Nat) : List UInt8 :=
  if point < 0x80 then [UInt8.ofNat point]
  else if point < 0x800 then [UInt8.ofNat (0xC0 + point / 64), UInt8.ofNat (0x80 + point % 64)]
  else if point < 0x10000 then
    [UInt8.ofNat (0xE0 + point / 4096), UInt8.ofNat (0x80 + point / 64 % 64),
      UInt8.ofNat (0x80 + point % 64)]
  else
    [UInt8.ofNat (0xF0 + point / 262144), UInt8.ofNat (0x80 + point / 4096 % 64),
      UInt8.ofNat (0x80 + point / 64 % 64), UInt8.ofNat (0x80 + point % 64)]

def bytes (text : JsonText) : List UInt8 :=
  text.points.flatMap pointBytes

/-- Joins each high half of a surrogate pair with the low half right after it. -/
def joinPairs : List Nat → List Nat
  | high :: low :: rest =>
      if 0xD800 ≤ high ∧ high < 0xDC00 ∧ 0xDC00 ≤ low ∧ low < 0xE000 then
        (0x10000 + (high - 0xD800) * 1024 + (low - 0xDC00)) :: joinPairs rest
      else
        high :: joinPairs (low :: rest)
  | points => points

end JsonText

namespace JsonNumber

def ofInt (value : Int) : JsonNumber :=
  ⟨decide (value < 0), value.natAbs, [], none⟩

/-- A literal without point and exponent that fits 64 bits, signed below zero; `-0` does not
count as whole. -/
def integer? (number : JsonNumber) : Option Int :=
  match number.fraction, number.exponent with
  | [], none =>
      if number.negative then
        if 0 < number.whole ∧ number.whole ≤ UInt64.size / 2 then some (-number.whole) else none
      else
        if number.whole < UInt64.size then some number.whole else none
  | _, _ => none

/-- The nearest double. -/
def nearest (number : JsonNumber) : Float :=
  let digits := number.fraction.foldl (fun value digit => 10 * value + digit) number.whole
  let magnitude := Number.ofDecimal ⟨digits, number.exponent.getD 0 - number.fraction.length⟩
  if number.negative then -magnitude else magnitude

/-- The leading digits of a number as long as they fit 64 bits, and the power of ten left over. -/
structure Significand where
  value : Nat
  exponent : Int

namespace Significand

def push? (value digit : Nat) : Option Nat :=
  if 10 * value + digit < UInt64.size then some (10 * value + digit) else none

/-- Digits before the point: once one does not fit, it and all later ones only count. -/
def pushWhole : Significand → List Nat → Significand
  | significand, [] => significand
  | significand, digit :: rest =>
      match push? significand.value digit with
      | some value => pushWhole ⟨value, significand.exponent⟩ rest
      | none => ⟨significand.value, significand.exponent + 1 + rest.length⟩

/-- Digits after the point: the first that does not fit ends the number. -/
def pushFraction : Significand → List Nat → Significand
  | significand, [] => significand
  | significand, digit :: rest =>
      match push? significand.value digit with
      | some value => pushFraction ⟨value, significand.exponent - 1⟩ rest
      | none => significand

/-- Scales by powers of ten that are doubles themselves, one rounding per step; `none` beyond the
greatest double. -/
def scale : Nat → Float → Int → Option Float
  | 0, _, _ => some 0
  | steps + 1, value, exponent =>
      if exponent.natAbs ≤ 308 then
        let power := Float.ofScientific 1 false exponent.natAbs
        if 0 ≤ exponent then
          let scaled := value * power
          if scaled.isInf then none else some scaled
        else some (value / power)
      else if value == 0 then some value
      else if 0 ≤ exponent then none
      else scale steps (value / 1e308) (exponent + 308)

end Significand

/-- The double made of the leading digits scaled by the power of ten, which is within a unit or two
of the last place of the literal. -/
def scaled? (number : JsonNumber) : Option Float :=
  let whole := (Nat.toDigits 10 number.whole).map fun digit => digit.toNat - '0'.toNat
  let significand := Significand.pushWhole ⟨0, 0⟩ whole
  let significand := significand.pushFraction number.fraction
  let exponent := significand.exponent + number.exponent.getD 0
  (Significand.scale 4 (Float.ofNat significand.value) exponent).map fun magnitude =>
    if number.negative then -magnitude else magnitude

end JsonNumber

namespace Json

def string (text : String) : Json :=
  .text (.ofString text)

def int (value : Int) : Json :=
  .number (.ofInt value)

def nat (value : Nat) : Json :=
  .int value

/-- An object whose names are plain text. -/
def record (fields : List (String × Json)) : Json :=
  .object (fields.map fun field => (.ofString field.1, field.2))

/-- An object of one field. -/
def tagged (name : String) (content : Json) : Json :=
  .record [(name, content)]

def isNull : Json → Bool
  | .null => true
  | _ => false

mutual

/-- No text in the value holds an unescaped control character. -/
def isClean : Json → Bool
  | .text content => !content.hasControl
  | .list items => areClean items
  | .object fields => fieldsAreClean fields
  | _ => true

def areClean : List Json → Bool
  | [] => true
  | item :: rest => item.isClean && areClean rest

def fieldsAreClean : List (JsonText × Json) → Bool
  | [] => true
  | (name, value) :: rest => !name.hasControl && value.isClean && fieldsAreClean rest

end

/-- The value of an object's field of that name. -/
def field? (json : Json) (name : String) : Option Json :=
  match json with
  | .object fields =>
      (fields.find? fun field => field.1.string? = some name).map (·.2)
  | _ => none

end Json

end GnssAdapter
