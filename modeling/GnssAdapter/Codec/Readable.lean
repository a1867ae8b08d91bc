import GnssAdapter.Codec
import GnssAdapter.Json.Reader
import GnssAdapter.Json.Printer
import GnssAdapter.Number.Decimal

/-!
The readable spelling: masks by the names of their flags, numbers in their shortest decimal form,
bytes as lists of numbers, absent fields as null.
-/

namespace GnssAdapter

namespace Json

/-- The number that a shortest decimal text stands for; no text stands for no number. -/
def ofDecimal? : Option String → Json
  | none => .null
  | some literal =>
      match JsonGrammar.readNumber literal.toList with
      | some (value, _) => .number value
      | none => .null

/-- A whole number rounded to a double, or the double of a literal with point or exponent. -/
def float64? : Json → Option Float
  | .number value =>
      match value.integer? with
      | some whole =>
          let magnitude := (UInt64.ofNat whole.natAbs).toFloat
          some (if whole < 0 then -magnitude else magnitude)
      | none => value.scaled?
  | _ => none

/-- A whole number rounded to a single, or the double of any other literal rounded again. -/
def float32? : Json → Option Float32
  | .number value =>
      match value.integer? with
      | some whole =>
          let magnitude := (UInt64.ofNat whole.natAbs).toFloat32
          some (if whole < 0 then -magnitude else magnitude)
      | none => value.scaled?.map Float.toFloat32
  | _ => none

/-- Bytes are a list of numbers, or a text for its own bytes. -/
def byteList? : Json → Option (List UInt8)
  | .list items => items.mapM fun item => (item.natBelow? 256).map UInt8.ofNat
  | .text value => some value.bytes
  | _ => none

/-- Whole seconds and nanoseconds; no other field may stand beside them. -/
def duration? (json : Json) : Option Duration := do
  let (seconds, nanoseconds) ←
    match json with
    | .object entries => do
        let entries ← Codec.plainEntries? entries
        guard (entries.length = 2)
        some (← entries.lookup "secs", ← entries.lookup "nanos")
    | .list [seconds, nanoseconds] => some (seconds, nanoseconds)
    | _ => none
  let seconds ← seconds.natBelow? UInt64.size
  let nanoseconds ← nanoseconds.natBelow? UInt32.size
  Duration.ofParts? (UInt64.ofNat seconds) (UInt32.ofNat nanoseconds)

end Json

def Spelling.readable : Spelling where
  omitsAbsent := false
  writeFloat32 value := .ofDecimal? (Number.shortest32? value)
  readFloat32 := Json.float32?
  writeFloat64 value := .ofDecimal? (Number.shortest64? value)
  readFloat64 := Json.float64?
  writeBytes bytes := .list (bytes.toList.map fun byte => .nat byte.toNat)
  readBytes json := json.byteList?.map fun bytes => ByteArray.mk bytes.toArray
  writeMask family bits := .string (family.render bits)
  readMask family json := json.string?.bind family.parse?
  writeDuration duration :=
    .record [("secs", .nat duration.seconds.toNat), ("nanos", .nat duration.nanoseconds.toNat)]
  readDuration := Json.duration?

namespace Codec

variable (α : Type) [Codec α]

/-- Reads the readable JSON text of a value. -/
def ofText? (text : String) : Option α :=
  (Json.parse? text).bind (read Spelling.readable)

/-- The readable JSON text of a value. -/
def toText {α : Type} [Codec α] (value : α) : String :=
  (write Spelling.readable value).render

end Codec

end GnssAdapter
