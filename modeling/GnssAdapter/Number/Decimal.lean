import GnssAdapter.Number.Binary

/-!
Decimal forms of binary numbers.

The shortest form has the fewest digits that read back as the same number, and of those the
nearest; the fixed form has a given count of places and rounds a half to the even neighbour.
-/

namespace GnssAdapter

/-- The number `digits · 10 ^ exponent`. -/
structure Decimal where
  digits : Nat
  exponent : Int

namespace Binary

/-- The point of the decimal grid `10 ^ exponent` nearest to a number among those that read back
as that number. All comparisons are between whole numbers: four times the mantissa, its neighbours'
midpoints and the grid point, each times a common scale. -/
def gridPoint? (binary : Binary) (exponent : Int) : Option Nat :=
  let numerator := Nat.pow 2 (binary.exponent - 2).toNat * Nat.pow 10 (-exponent).toNat
  let denominator := Nat.pow 2 (2 - binary.exponent).toNat * Nat.pow 10 exponent.toNat
  let value := 4 * binary.mantissa * numerator
  let low := (4 * binary.mantissa - if binary.narrowBelow then 1 else 2) * numerator
  let high := (4 * binary.mantissa + 2) * numerator
  let closed := binary.mantissa % 2 = 0
  let readsBack (point : Nat) : Bool :=
    let scaled := point * denominator
    0 < point && (if closed then low ≤ scaled && scaled ≤ high else low < scaled && scaled < high)
  let below := value / denominator
  let above := below + 1
  let belowError := value - below * denominator
  let aboveError := above * denominator - value
  let belowFirst := belowError < aboveError || (belowError = aboveError && below % 2 = 0)
  let candidates := if belowFirst then [below, above] else [above, below]
  candidates.find? readsBack

/-- Searches ever finer grids, from a given one on. -/
def searchGrids (binary : Binary) : Nat → Int → Decimal
  | 0, exponent => ⟨0, exponent⟩
  | fuel + 1, exponent =>
      match binary.gridPoint? exponent with
      | some digits => ⟨digits, exponent⟩
      | none => binary.searchGrids fuel (exponent - 1)

/-- The shortest decimal that reads back as a number; a mantissa of at most 53 bits needs at most
17 digits below the first grid coarser than the number. -/
def shortest (binary : Binary) : Decimal :=
  if binary.mantissa = 0 then ⟨0, 0⟩
  else
    let bound := binary.exponent + binary.mantissa.log2 + 2
    binary.searchGrids 24 (Int.fdiv (bound * 30103) 100000 + 1)

/-- The magnitude times `10 ^ places`, rounded to the nearest whole number, a half to even. -/
def roundedAt (binary : Binary) (places : Nat) : Nat :=
  let numerator := binary.mantissa * Nat.pow 2 binary.exponent.toNat * Nat.pow 10 places
  let denominator := Nat.pow 2 (-binary.exponent).toNat
  let quotient := numerator / denominator
  let rest := numerator % denominator
  if 2 * rest < denominator then quotient
  else if denominator < 2 * rest then quotient + 1
  else quotient + quotient % 2

end Binary

/-- Where a shortest form leaves positional notation. -/
structure DecimalLayout where
  /-- The least and greatest power of ten above the number that are written positionally. -/
  least : Int
  greatest : Int

namespace DecimalLayout

def single : DecimalLayout := ⟨-5, 13⟩
def double : DecimalLayout := ⟨-4, 16⟩

variable (layout : DecimalLayout)

/-- Digits with a point: whole numbers keep one zero after it, and small ones one before it; outside
the positional range one digit stands before the point and the power of ten follows an `e`. -/
def render (negative : Bool) (decimal : Decimal) : String :=
  let digits := Nat.toDigits 10 decimal.digits
  let top := decimal.exponent + digits.length
  let zeros (count : Int) : List Char := List.replicate count.toNat '0'
  let body :=
    if decimal.digits = 0 then "0.0".toList
    else if 0 ≤ decimal.exponent ∧ top ≤ layout.greatest then
      digits ++ zeros decimal.exponent ++ ".0".toList
    else if 0 < top ∧ top ≤ layout.greatest then
      digits.take top.toNat ++ '.' :: digits.drop top.toNat
    else if layout.least ≤ top ∧ top ≤ 0 then
      "0.".toList ++ zeros (-top) ++ digits
    else
      let fraction := if digits.length = 1 then [] else '.' :: digits.drop 1
      digits.take 1 ++ fraction ++ 'e' :: (toString (top - 1)).toList
  String.ofList (if negative then '-' :: body else body)

end DecimalLayout

namespace Number

/-- The double nearest to a decimal, infinite beyond the greatest one. Past 400 orders of magnitude
on either side every decimal goes the same way. -/
def ofDecimal (decimal : Decimal) : Float :=
  let top := decimal.exponent + (Nat.toDigits 10 decimal.digits).length
  if decimal.digits = 0 ∨ top < -400 then 0
  else if 400 < top then 1.0 / 0.0
  else Float.ofScientific decimal.digits (decide (decimal.exponent < 0)) decimal.exponent.natAbs

/-- The shortest decimal text of a finite double. -/
def shortest64? (value : Float) : Option String :=
  match classify64 value with
  | .finite binary => some (DecimalLayout.double.render binary.negative binary.shortest)
  | _ => none

/-- The shortest decimal text of a finite single. -/
def shortest32? (value : Float32) : Option String :=
  match classify32 value with
  | .finite binary => some (DecimalLayout.single.render binary.negative binary.shortest)
  | _ => none

/-- A number with a fixed count of places, or `inf`, `-inf` or `NaN`. -/
def fixed (places : Nat) (value : Float) : String :=
  match classify64 value with
  | .nan => "NaN"
  | .infinite negative => if negative then "-inf" else "inf"
  | .finite binary =>
      let scaled := binary.roundedAt places
      let whole := Nat.toDigits 10 (scaled / Nat.pow 10 places)
      let fraction := Nat.toDigits 10 (scaled % Nat.pow 10 places)
      let padding := List.replicate (places - fraction.length) '0'
      let body := whole ++ (if places = 0 then [] else '.' :: (padding ++ fraction))
      String.ofList (if binary.negative then '-' :: body else body)

end Number

end GnssAdapter
