import GnssAdapter.Enumeration

/-!
What a fix session is asked to deliver.
-/

namespace GnssAdapter

/-- Who computes a position, and from what. -/
inductive PositionMode where
  | standalone | msBased | msAssisted | cellId | wwan
  deriving DecidableEq

instance : Enumeration PositionMode where
  names := [
    (.standalone, "Standalone"),
    (.msBased, "MsBased"),
    (.msAssisted, "MsAssisted"),
    (.cellId, "CellId"),
    (.wwan, "Wwan")]

inductive Recurrence where
  | periodic | single
  deriving DecidableEq

instance : Enumeration Recurrence where
  names := [
    (.periodic, "Periodic"),
    (.single, "Single")]

/-- How much power the engine may use, from full power down. -/
inductive PowerMode where
  | m1 | m2 | m3 | m4 | m5
  deriving DecidableEq

instance : Enumeration PowerMode where
  names := [
    (.m1, "M1"),
    (.m2, "M2"),
    (.m3, "M3"),
    (.m4, "M4"),
    (.m5, "M5")]

/-- Modes in which the engine works in the background. -/
def PowerMode.isBackground : PowerMode → Bool
  | .m3 | .m4 | .m5 => true
  | .m1 | .m2 => false

structure FixCriteria where
  mode : PositionMode := .standalone
  recurrence : Recurrence := .periodic
  minIntervalMs : UInt32 := 1000
  /-- In meters, horizontally. -/
  preferredAccuracyM : UInt32 := 50
  sharePosition : Bool := true
  credentials : String := ""
  provider : String := ""
  powerMode : Option PowerMode := none
  timeBetweenMeasurementsMs : UInt32 := 0

end GnssAdapter
