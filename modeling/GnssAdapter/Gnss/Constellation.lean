import GnssAdapter.Flag
import GnssAdapter.Enumeration

/-!
Satellite systems and their signals.

A satellite system is tagged one way by the engine (`SatelliteSystem`) and another way in reports
(`Constellation`); a signal is one band and code of a constellation.
-/

namespace GnssAdapter

/-- The tag of the remote engine; BeiDou has two. -/
inductive SatelliteSystem where
  | gps | galileo | sbas | compass | glonass | bds | qzss | unknown
  deriving DecidableEq

instance : Enumeration SatelliteSystem where
  names := [
    (.gps, "Gps"),
    (.galileo, "Galileo"),
    (.sbas, "Sbas"),
    (.compass, "Compass"),
    (.glonass, "Glonass"),
    (.bds, "Bds"),
    (.qzss, "Qzss"),
    (.unknown, "Unknown")]

/-- The tag of reports. -/
inductive Constellation where
  | unknown | gps | sbas | glonass | qzss | beidou | galileo
  deriving DecidableEq

instance : Enumeration Constellation where
  names := [
    (.unknown, "Unknown"),
    (.gps, "Gps"),
    (.sbas, "Sbas"),
    (.glonass, "Glonass"),
    (.qzss, "Qzss"),
    (.beidou, "Beidou"),
    (.galileo, "Galileo")]

/-- A band and code that some constellation broadcasts. -/
inductive Signal where
  | gpsL1ca | gpsL1c | gpsL2cL | gpsL5Q | glonassG1 | glonassG2 | galileoE1C | galileoE5aQ
  | galileoE5bQ | beidouB1I | beidouB1C | beidouB2I | beidouB2aI | qzssL1ca | qzssL1s | qzssL2cL
  | qzssL5Q | sbasL1Ca
  deriving DecidableEq

instance : Flag Signal where
  width := 32
  layout := [
    (.gpsL1ca, 0, "GPS_L1CA"),
    (.gpsL1c, 1, "GPS_L1C"),
    (.gpsL2cL, 2, "GPS_L2C_L"),
    (.gpsL5Q, 3, "GPS_L5_Q"),
    (.glonassG1, 4, "GLONASS_G1"),
    (.glonassG2, 5, "GLONASS_G2"),
    (.galileoE1C, 6, "GALILEO_E1_C"),
    (.galileoE5aQ, 7, "GALILEO_E5A_Q"),
    (.galileoE5bQ, 8, "GALILEO_E5B_Q"),
    (.beidouB1I, 9, "BEIDOU_B1_I"),
    (.beidouB1C, 10, "BEIDOU_B1_C"),
    (.beidouB2I, 11, "BEIDOU_B2_I"),
    (.beidouB2aI, 12, "BEIDOU_B2A_I"),
    (.qzssL1ca, 13, "QZSS_L1CA"),
    (.qzssL1s, 14, "QZSS_L1S"),
    (.qzssL2cL, 15, "QZSS_L2C_L"),
    (.qzssL5Q, 16, "QZSS_L5_Q"),
    (.sbasL1Ca, 17, "SBAS_L1_CA")]

end GnssAdapter
