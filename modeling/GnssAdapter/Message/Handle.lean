/-!
Handles of connections.
-/

namespace GnssAdapter

/-- What an open connection is addressed by. -/
structure Handle where
  value : UInt64
  deriving DecidableEq

end GnssAdapter
