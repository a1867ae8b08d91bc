/-!
TOML tables and how a document builds them.

A table remembers how it came to be, because that decides what may still be added to it: a table
is defined once, by one header, by dotted keys or between braces, and what is closed stays closed.
-/

namespace GnssAdapter.Toml

/-- How a table came to be. -/
inductive Origin where
  /-- The document itself, or a table with a header of its own. -/
  | header
  /-- Named only on the way to the table of a longer header. -/
  | implied
  /-- Named only on the way to the last of several dotted keys. -/
  | dotted
  /-- Written between braces. -/
  | inline
  deriving DecidableEq

mutual

inductive Value where
  | text (content : String)
  | integer (value : Int)
  | float (value : Float)
  | bool (value : Bool)
  /-- A date, a time of day or both; no key of this library takes one, so it is not kept. -/
  | moment
  | list (items : List Value)
  | table (content : Table)
  /-- One table for each doubled header, of which later lines fill the last. -/
  | tables (earlier : List Table) (last : Table)

structure Table where
  origin : Origin
  entries : List (String × Value)

end

/-- Which keys lead through a table: those of a header, or dotted keys before the last one. -/
inductive Route where
  | header
  | dotted
  deriving DecidableEq

/-- What a table is that no line has named before. -/
def Route.newOrigin : Route → Origin
  | .header => .implied
  | .dotted => .dotted

/-- A header leads through every table that is not closed; dotted keys only through tables that
have no header of their own. -/
def Route.admits : Route → Origin → Bool
  | .header, origin => origin != .inline
  | .dotted, origin => origin == .implied || origin == .dotted

namespace Table

def empty (origin : Origin) : Table :=
  ⟨origin, []⟩

def get? (table : Table) (key : String) : Option Value :=
  table.entries.lookup key

/-- Replaces the value of a key in its place, or puts a new key at the end. -/
def put (table : Table) (key : String) (value : Value) : Table :=
  { table with
    entries :=
      if table.entries.any (·.1 = key) then
        table.entries.map fun entry => if entry.1 = key then (key, value) else entry
      else table.entries ++ [(key, value)] }

/-- Changes the table at the end of a path, making the tables that are missing on the way. -/
def modifyAt? (route : Route) (change : Table → Option Table) :
    List String → Table → Option Table
  | [], table => change table
  | key :: path, table => do
      match (table.get? key).getD (.table (empty route.newOrigin)) with
      | .table inner =>
          guard (route.admits inner.origin)
          let inner ← modifyAt? route change path inner
          some (table.put key (.table inner))
      | .tables earlier last =>
          let last ← modifyAt? route change path last
          some (table.put key (.tables earlier last))
      | _ => none

/-- Adds the value of a key, or of several dotted ones; a key is given once, and dotted keys add
only to tables that dotted keys have made. -/
def insert? (table : Table) (keys : List String) (value : Value) : Option Table := do
  let key ← keys.getLast?
  let path := keys.dropLast
  let add (parent : Table) : Option Table := do
    guard ((parent.origin = .dotted) ↔ (path ≠ []))
    guard (parent.get? key).isNone
    some (parent.put key value)
  table.modifyAt? .dotted add path

/-- Begins the table of a header, which no earlier line has defined. -/
def open? (table : Table) (keys : List String) : Option Table := do
  let key ← keys.getLast?
  let first (parent : Table) : Option Table :=
    match parent.get? key with
    | none => some (parent.put key (.table (empty .header)))
    | some (.table ⟨.implied, entries⟩) => some (parent.put key (.table ⟨.header, entries⟩))
    | some _ => none
  table.modifyAt? .header first keys.dropLast

/-- Begins one more table of a doubled header. -/
def append? (table : Table) (keys : List String) : Option Table := do
  let key ← keys.getLast?
  let next (parent : Table) : Option Table :=
    match parent.get? key with
    | none => some (parent.put key (.tables [] (empty .header)))
    | some (.tables earlier last) =>
        some (parent.put key (.tables (earlier ++ [last]) (empty .header)))
    | some _ => none
  table.modifyAt? .header next keys.dropLast

end Table

end GnssAdapter.Toml
