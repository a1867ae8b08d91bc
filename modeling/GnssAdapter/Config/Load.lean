import GnssAdapter.Codec.Readable
import GnssAdapter.Config.Basic
import GnssAdapter.Toml.Reader

/-!
Configurations written down, in a text or in a file named for its format. Every key may be left
out, and keys of other names are passed over; what has been read is validated.
-/

namespace GnssAdapter

inductive ConfigFormat where
  | toml | json
  deriving DecidableEq

instance : Enumeration ConfigFormat where
  names := [(.toml, "TOML"), (.json, "JSON")]

/-- The format of a file extension in either case. -/
def ConfigFormat.ofExtension? (extension : String) : Option ConfigFormat :=
  match extension.toLower with
  | "toml" => some .toml
  | "json" => some .json
  | _ => none

/-- What follows the last dot of a file name; a dot that begins the name does not count. -/
def fileExtension? (name : String) : Option String := do
  let (ending, stem) := name.toList.reverse.span (· ≠ '.')
  guard (1 < stem.length && name ≠ "..")
  some (String.ofList ending.reverse)

namespace Toml.Value

/-- Whole numbers count, as far as 64 bits hold them. -/
def float32? : Value → Option Float32
  | .float value => some value.toFloat32
  | .integer value => do
      guard (-(UInt64.size / 2) ≤ value && value < UInt64.size)
      let magnitude := (UInt64.ofNat value.natAbs).toFloat32
      some (if value < 0 then -magnitude else magnitude)
  | _ => none

def uint64? : Value → Option UInt64
  | .integer value => do
      guard (0 ≤ value && value < UInt64.size)
      some (UInt64.ofNat value.toNat)
  | _ => none

def bool? : Value → Option Bool
  | .bool value => some value
  | _ => none

def mask? (φ : Type) [Flag φ] : Value → Option (Mask φ)
  | .text content => ((Flag.writtenNames φ).parse? content).bind (Mask.ofNat? φ)
  | _ => none

end Toml.Value

/-- The value of a key, or what stands for a key that is left out. -/
def Toml.Table.readOr {α : Type} (table : Toml.Table) (key : String) (default : α)
    (read : Toml.Value → Option α) : Option α :=
  match table.get? key with
  | some value => read value
  | none => some default

namespace Config

def ofTable? (table : Toml.Table) : Option Config := do
  let fallback : Config := {}
  some {
    timestampUncertaintyMs := ←
      table.readOr "ap_timestamp_uncertainty_ms" fallback.timestampUncertaintyMs (·.float32?)
    requestTimeoutMs := ←
      table.readOr "sync_request_timeout_ms" fallback.requestTimeoutMs (·.uint64?)
    queueCapacity := ← table.readOr "queue_capacity" fallback.queueCapacity (·.uint64?)
    masterClient := ← table.readOr "master_client" fallback.masterClient (·.bool?)
    excludedEvents := ←
      table.readOr "excluded_event_mask" fallback.excludedEvents (·.mask? AdapterEvent) }

def parse? (format : ConfigFormat) (text : String) : Option Config :=
  match format with
  | .toml => (Toml.parse? text).bind ofTable?
  | .json => Codec.ofText? Config text

/-- Reads and validates a configuration. -/
def load (format : ConfigFormat) (text : String) : Except ConfigError Config := do
  let some config := parse? format text
    | throw (.parse (Enumeration.name format ++ " parse error"))
  config.validate
  return config

/-- Loads a file by its name and its content, if there is such a file. A name without a known
extension is refused before the file is looked for. -/
def loadFile (name : String) (content : Option ByteArray) : Except ConfigError Config := do
  let some format := (fileExtension? name).bind ConfigFormat.ofExtension?
    | throw (.parse ("unsupported config file: " ++ name))
  let some text := content.bind String.fromUTF8?
    | throw .io
  load format text

end Config

end GnssAdapter
