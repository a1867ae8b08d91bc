import GnssAdapter.Toml.Scalar

/-!
TOML documents: values, entries and headers, read line by line into one table.
-/

namespace GnssAdapter.TomlGrammar

open Toml (Table Value)

/-- How deep lists and tables between braces may stand in each other. -/
def nestingLimit : Nat := 80

/-- The equals sign between the keys and the value of an entry, with the blanks around it. -/
def skipEquals (text : List Char) : Option (List Char) :=
  match skipBlanks text with
  | '=' :: rest => some (skipBlanks rest)
  | _ => none

mutual

/-- A value; the fuel bounds the count of values, entries and separators in it. -/
def readValue (depth : Nat) : Nat → List Char → Option (Value × List Char)
  | 0, _ => none
  | fuel + 1, text =>
      match text with
      | '"' :: _ => (readText text).map fun (content, rest) => (.text content, rest)
      | '\'' :: _ => (readText text).map fun (content, rest) => (.text content, rest)
      | '[' :: rest => do
          guard (0 < depth)
          let (items, rest) ← readItems (depth - 1) fuel rest
          some (.list items, rest)
      | '{' :: rest => do
          guard (0 < depth)
          let (table, rest) ← readEntries (depth - 1) fuel (.empty .inline) rest
          some (.table table, rest)
      | _ => readScalar text

/-- The items of a list up to its closing bracket; the last may have a comma after it. -/
def readItems (depth : Nat) : Nat → List Char → Option (List Value × List Char)
  | 0, _ => none
  | fuel + 1, text => do
      match ← skipLayout (text.length + 1) text with
      | ']' :: rest => some ([], rest)
      | text =>
          let (item, rest) ← readValue depth fuel text
          match ← skipLayout (rest.length + 1) rest with
          | ',' :: rest =>
              let (items, rest) ← readItems depth fuel rest
              some (item :: items, rest)
          | ']' :: rest => some ([item], rest)
          | _ => none

/-- The entries of a table up to its closing brace, added to those before them. -/
def readEntries (depth : Nat) : Nat → Table → List Char → Option (Table × List Char)
  | 0, _, _ => none
  | fuel + 1, table, text => do
      match ← skipLayout (text.length + 1) text with
      | '}' :: rest => some (table, rest)
      | text =>
          let (keys, rest) ← readKeys (text.length + 1) text
          let (value, rest) ← readValue depth fuel (← skipEquals rest)
          let table ← table.insert? keys value
          match ← skipLayout (rest.length + 1) rest with
          | ',' :: rest => readEntries depth fuel table rest
          | '}' :: rest => some (table, rest)
          | _ => none

end

/-- What the lines read so far amount to. -/
structure Document where
  root : Table
  /-- The keys of the header that the next entries stand under. -/
  header : List String

namespace Document

def empty : Document :=
  ⟨.empty .header, []⟩

/-- An entry of the table of the last header. -/
def addEntry? (document : Document) (keys : List String) (value : Value) : Option Document := do
  let root ← document.root.modifyAt? .header (·.insert? keys value) document.header
  some { document with root }

def openTable? (document : Document) (keys : List String) : Option Document := do
  let root ← document.root.open? keys
  some ⟨root, keys⟩

def appendTable? (document : Document) (keys : List String) : Option Document := do
  let root ← document.root.append? keys
  some ⟨root, keys⟩

end Document

/-- One header or entry, up to the end of its line. -/
def readLine (document : Document) (text : List Char) : Option (Document × List Char) := do
  let (document, rest) ←
    match text with
    | '[' :: '[' :: text => do
        match ← readKeys (text.length + 1) (skipBlanks text) with
        | (keys, ']' :: ']' :: rest) => (document.appendTable? keys).map (·, rest)
        | _ => none
    | '[' :: text => do
        match ← readKeys (text.length + 1) (skipBlanks text) with
        | (keys, ']' :: rest) => (document.openTable? keys).map (·, rest)
        | _ => none
    | text => do
        let (keys, rest) ← readKeys (text.length + 1) text
        let rest ← skipEquals rest
        let (value, rest) ← readValue nestingLimit (rest.length + 1) rest
        (document.addEntry? keys value).map (·, rest)
  (finishLine rest).map (document, ·)

def readLines : Nat → Document → List Char → Option Table
  | 0, _, _ => none
  | fuel + 1, document, text => do
      let text ← skipLayout (text.length + 1) text
      if text.isEmpty then some document.root
      else
        let (document, rest) ← readLine document text
        readLines fuel document rest

end GnssAdapter.TomlGrammar

namespace GnssAdapter.Toml

/-- The table of a whole document; a byte order mark may stand before it. -/
def parse? (text : String) : Option Table :=
  let characters := text.toList
  let characters := if characters.head? = some '\uFEFF' then characters.drop 1 else characters
  TomlGrammar.readLines (characters.length + 1) .empty characters

end GnssAdapter.Toml
