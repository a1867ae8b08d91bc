/-!
How logs and metrics leave the process.
-/

namespace GnssAdapter

inductive LogFormat where
  /-- One object a line. -/
  | json
  /-- Several lines for a reader. -/
  | pretty
  /-- One line for a reader. -/
  | compact
  deriving DecidableEq

structure Telemetry where
  logFormat : LogFormat := .json
  /-- Port on which metrics are offered, if they are. -/
  metricsPort : Option UInt16 := some 9000
  defaultLogLevel : String := "info"

end GnssAdapter
