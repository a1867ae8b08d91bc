import GnssAdapter.Clock
import GnssAdapter.Enumeration
import GnssAdapter.Flag.Text
import GnssAdapter.Json.Value

/-!
Written forms of records.

A `Codec` says how a type is laid out in JSON: which fields a record has, in which order, and
which tags a union has. How the leaves are spelled (masks, floating-point numbers, bytes, absent
fields) is left to a `Spelling`, so that one codec serves every dialect.
-/

namespace GnssAdapter

/-- How the leaves of records are spelled. -/
structure Spelling where
  /-- An absent field is left out; otherwise it is written as null. -/
  omitsAbsent : Bool
  writeFloat32 : Float32 → Json
  readFloat32 : Json → Option Float32
  writeFloat64 : Float → Json
  readFloat64 : Json → Option Float
  writeBytes : ByteArray → Json
  readBytes : Json → Option ByteArray
  writeMask : FlagNames → Nat → Json
  readMask : FlagNames → Json → Option Nat
  writeDuration : Duration → Json
  readDuration : Json → Option Duration

class Codec (α : Type) where
  write : Spelling → α → Json
  read : Spelling → Json → Option α
  /-- What stands for a field that is left out, if it may be. -/
  missing : Option α := none

namespace Json

def integer? : Json → Option Int
  | .number value => value.integer?
  | _ => none

def natBelow? (json : Json) (bound : Nat) : Option Nat := do
  let value ← json.integer?
  guard (0 ≤ value && value < bound)
  some value.toNat

def intWithin? (json : Json) (bound : Nat) : Option Int := do
  let value ← json.integer?
  guard (-bound ≤ value && value < bound)
  some value

def string? : Json → Option String
  | .text value => value.string?
  | _ => none

def bool? : Json → Option Bool
  | .bool value => some value
  | _ => none

end Json

namespace Codec

instance : Codec Bool where
  write _ value := .bool value
  read _ := Json.bool?

instance : Codec String where
  write _ value := .string value
  read _ := Json.string?

instance : Codec UInt8 where
  write _ value := .nat value.toNat
  read _ json := (json.natBelow? UInt8.size).map UInt8.ofNat

instance : Codec UInt16 where
  write _ value := .nat value.toNat
  read _ json := (json.natBelow? UInt16.size).map UInt16.ofNat

instance : Codec UInt32 where
  write _ value := .nat value.toNat
  read _ json := (json.natBelow? UInt32.size).map UInt32.ofNat

instance : Codec UInt64 where
  write _ value := .nat value.toNat
  read _ json := (json.natBelow? UInt64.size).map UInt64.ofNat

instance : Codec Int8 where
  write _ value := .int value.toInt
  read _ json := (json.intWithin? (Int8.size / 2)).map Int8.ofInt

instance : Codec Int32 where
  write _ value := .int value.toInt
  read _ json := (json.intWithin? (Int32.size / 2)).map Int32.ofInt

instance : Codec Int64 where
  write _ value := .int value.toInt
  read _ json := (json.intWithin? (Int64.size / 2)).map Int64.ofInt

instance : Codec Float32 where
  write spelling := spelling.writeFloat32
  read spelling := spelling.readFloat32

instance : Codec Float where
  write spelling := spelling.writeFloat64
  read spelling := spelling.readFloat64

instance : Codec ByteArray where
  write spelling := spelling.writeBytes
  read spelling := spelling.readBytes

instance : Codec Duration where
  write spelling := spelling.writeDuration
  read spelling := spelling.readDuration

instance {φ : Type} [Flag φ] : Codec (Mask φ) where
  write spelling mask := spelling.writeMask (Flag.writtenNames φ) mask.toNat
  read spelling json := (spelling.readMask (Flag.writtenNames φ) json).bind (Mask.ofNat? φ)

instance {α : Type} [Codec α] : Codec (Option α) where
  write spelling
    | none => .null
    | some value => write spelling value
  read spelling
    | .null => some none
    | json => (read spelling json).map some
  missing := some none

instance {α : Type} [Codec α] : Codec (List α) where
  write spelling items := .list (items.map (write spelling))
  read spelling
    | .list items => items.mapM (read spelling)
    | _ => none

instance {α : Type} [Codec α] {count : Nat} : Codec (Vector α count) where
  write spelling items := .list (items.toList.map (write spelling))
  read spelling json := do
    let items ← (read spelling json : Option (List α))
    if h : items.toArray.size = count then some ⟨items.toArray, h⟩ else none

/-- One alternative of a union: its tag, and how its content is read, if it has any. -/
structure Case (α : Type) where
  tag : String
  read : Spelling → Option Json → Option α

namespace Case

variable {α β : Type}

/-- No content; a null may stand for it. -/
def unit (tag : String) (value : α) : Case α where
  tag := tag
  read _
    | none => some value
    | some .null => some value
    | some _ => none

def carrying [Codec β] (tag : String) (make : β → α) : Case α where
  tag := tag
  read spelling content := content.bind fun json => (Codec.read spelling json).map make

end Case

/-- A union is its tag alone, or an object of one field named by the tag. -/
def readUnion {α : Type} (cases : List (Case α)) (spelling : Spelling) : Json → Option α
  | .text tag => do
      let tag ← tag.string?
      let case ← cases.find? fun case => case.tag = tag
      case.read spelling none
  | .object [(tag, content)] => do
      let tag ← tag.string?
      let case ← cases.find? fun case => case.tag = tag
      case.read spelling (some content)
  | _ => none

instance (priority := low) {α : Type} [Enumeration α] [DecidableEq α] : Codec α where
  write _ value := .string (Enumeration.name value)
  read := readUnion (Enumeration.names.map fun entry => .unit entry.2 entry.1)

end Codec

/-- The fields of a record of type `ρ` that a value of type `α` is made of. -/
structure Fields (ρ α : Type) where
  names : List String
  write : Spelling → ρ → List (String × Json)
  /-- From the fields of an object. -/
  readNamed : Spelling → List (String × Json) → Option α
  /-- From the front of a list of values in field order. -/
  readListed : Spelling → List Json → Option (α × List Json)

namespace Fields

variable {ρ α β : Type}

instance : Functor (Fields ρ) where
  map f fields :=
    { fields with
      readNamed := fun spelling entries => (fields.readNamed spelling entries).map f
      readListed := fun spelling items =>
        (fields.readListed spelling items).map fun (value, rest) => (f value, rest) }

instance : Seq (Fields ρ) where
  seq first second :=
    { names := first.names ++ (second ()).names
      write := fun spelling record =>
        first.write spelling record ++ (second ()).write spelling record
      readNamed := fun spelling entries => do
        let f ← first.readNamed spelling entries
        let value ← (second ()).readNamed spelling entries
        some (f value)
      readListed := fun spelling items => do
        let (f, items) ← first.readListed spelling items
        let (value, items) ← (second ()).readListed spelling items
        some (f value, items) }

end Fields

/-- A field with its name and how a record holds it. -/
def field {ρ α : Type} [Codec α] (name : String) (get : ρ → α) : Fields ρ α where
  names := [name]
  write spelling record := [(name, Codec.write spelling (get record))]
  readNamed spelling entries :=
    match entries.lookup name with
    | some json => Codec.read spelling json
    | none => Codec.missing
  readListed spelling
    | json :: rest => (Codec.read spelling json).map (·, rest)
    | [] => none

/-- A field that may be left out, a default standing for it. -/
def fieldOr {ρ α : Type} [Codec α] (name : String) (default : α) (get : ρ → α) : Fields ρ α where
  names := [name]
  write spelling record := [(name, Codec.write spelling (get record))]
  readNamed spelling entries :=
    match entries.lookup name with
    | some json => Codec.read spelling json
    | none => some default
  readListed spelling
    | json :: rest => (Codec.read spelling json).map (·, rest)
    | [] => some (default, [])

namespace Codec

/-- The entries of an object whose names are all plain text. -/
def plainEntries? (entries : List (JsonText × Json)) : Option (List (String × Json)) :=
  entries.mapM fun entry => entry.1.string?.map (·, entry.2)

/-- A record is an object of its fields, or the list of their values. Fields of other names are
passed over; a field of the record stands at most once. -/
abbrev record {ρ : Type} (fields : Fields ρ ρ) : Codec ρ where
  write spelling value :=
    let entries := fields.write spelling value
    .record (if spelling.omitsAbsent then entries.filter (!·.2.isNull) else entries)
  read spelling
    | .object entries => do
        let entries ← plainEntries? entries
        guard (fields.names.all fun name => (entries.filter (·.1 = name)).length ≤ 1)
        guard (entries.all fun entry => fields.names.contains entry.1 || entry.2.isClean)
        fields.readNamed spelling entries
    | .list items => do
        let (value, rest) ← fields.readListed spelling items
        guard rest.isEmpty
        some value
    | _ => none

/-- A record of one field, written in place of the field's content. -/
def Case.single {α β : Type} [Codec β] (tag name : String) (make : β → α) : Case α :=
  let codec : Codec β := .record (field name id)
  { tag := tag
    read := fun spelling content =>
      content.bind fun json => (codec.read spelling json).map make }

end Codec

end GnssAdapter
