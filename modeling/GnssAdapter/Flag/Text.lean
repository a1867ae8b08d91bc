import GnssAdapter.Flag
import GnssAdapter.Text.Blank
import GnssAdapter.Text.Hex

/-!
The written form of a mask: the names of its flags joined by a bar, unnamed bits last as one
hexadecimal number. Reading also takes a hexadecimal number in place of any name.
-/

namespace GnssAdapter

/-- What the written form needs to know of a family: its width and the bit of each name. -/
structure FlagNames where
  width : Nat
  names : List (String × Nat)

namespace FlagNames

variable (family : FlagNames)

/-- The digits after `0x`; a single plus sign may stand before them. -/
def number? (digits : List Char) : Option Nat := do
  let digits := if digits.head? = some '+' then digits.drop 1 else digits
  guard (!digits.isEmpty)
  let value ← Text.hexValue? digits
  guard (value < Nat.pow 2 family.width)
  some value

/-- One part between bars: a number after `0x`, or a name in its exact case. -/
def part? (text : List Char) : Option Nat :=
  match text with
  | '0' :: 'x' :: digits => family.number? digits
  | _ => (family.names.lookup (String.ofList text)).map (Nat.pow 2 ·)

/-- The bits of a written mask; blank text is the empty mask. -/
def parse? (text : String) : Option Nat :=
  let text := Text.trim text.toList
  if text.isEmpty then some 0
  else (Text.split '|' text).foldlM
    (fun bits part => (family.part? (Text.trim part)).map (bits ||| ·)) 0

/-- The bits that no name covers. -/
def unnamed (bits : Nat) : Nat :=
  family.names.foldl
    (fun rest entry => if rest.testBit entry.2 then rest - Nat.pow 2 entry.2 else rest) bits

def render (bits : Nat) : String :=
  let named := (family.names.filter fun entry => bits.testBit entry.2).map (·.1)
  let rest := family.unnamed bits
  let number := if rest = 0 then [] else [String.ofList ('0' :: 'x' :: Text.shortHex rest)]
  String.intercalate " | " (named ++ number)

end FlagNames

variable (φ : Type) [Flag φ]

/-- The names of a family as the written form uses them. -/
def Flag.writtenNames : FlagNames where
  width := Flag.width φ
  names := (Flag.layout (φ := φ)).map fun entry => (entry.2.2, entry.2.1)

end GnssAdapter
