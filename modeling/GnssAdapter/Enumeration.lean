/-!
Types of finitely many values, each with a written name.
-/

namespace GnssAdapter

/-- A type of finitely many values, each with a written name. -/
class Enumeration (α : Type) where
  names : List (α × String)

namespace Enumeration

variable {α : Type} [Enumeration α] [DecidableEq α]

def name (value : α) : String :=
  (names.lookup value).getD ""

variable (α) in
def ofName? (name : String) : Option α :=
  (names.find? fun entry => entry.2 = name).map (·.1)

variable (α) in
def all : List α :=
  names.map (·.1)

end Enumeration

end GnssAdapter
