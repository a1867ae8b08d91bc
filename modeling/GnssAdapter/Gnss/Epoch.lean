import GnssAdapter.Gnss.Time
import GnssAdapter.Number.Checked

/-!
Conversions between the time scales of the constellations.
-/

namespace GnssAdapter

def weekMs : Nat := 604800000
def dayMs : Nat := 86400000

/-- Both counters carry a known value. -/
def GlonassTime.isKnown (time : GlonassTime) : Bool :=
  time.fourYear != 255 && time.days != 65535

namespace GpsTime

/-- A count of milliseconds since the GPS epoch, each part held at its greatest value if it does
not fit. -/
def ofMilliseconds (total : Nat) : GpsTime where
  week := if total / weekMs < UInt16.size then UInt16.ofNat (total / weekMs) else 65535
  towMs := if total % weekMs < UInt32.size then UInt32.ofNat (total % weekMs) else 4294967295

end GpsTime

namespace GlonassTime

open CheckedWord (of of_yields)

/-- Milliseconds since the GPS epoch: the GLONASS epoch is 5838 days later, its clock is three hours
ahead of UTC, and UTC is behind GPS by the leap seconds. -/
def sinceGpsEpoch (time : GlonassTime) (leapSeconds : UInt8) : CheckedWord :=
  of time.fourYear.toNat * of 1461 * of dayMs + of time.days.toNat * of dayMs +
    of time.msec.toNat + of 5838 * of dayMs - of 3 * of 3600 * of 1000 +
    of leapSeconds.toNat * of 1000

/-- The same milliseconds as a whole number. -/
def elapsedMs (time : GlonassTime) (leapSeconds : UInt8) : Int :=
  (1461 * time.fourYear.toNat + time.days.toNat + 5838) * dayMs + time.msec.toNat - 10800000 +
    1000 * leapSeconds.toNat

/-- No step leaves the words: the days before the GLONASS epoch outweigh the three hours, and the
counters are far too narrow for the sum to overflow. -/
theorem sinceGpsEpoch_yields (time : GlonassTime) (leapSeconds : UInt8) :
    (time.sinceGpsEpoch leapSeconds).Yields (time.elapsedMs leapSeconds) := by
  have hsize : (UInt64.size : Int) = 18446744073709551616 := rfl
  have hfourYear := time.fourYear.toNat_lt
  have hdays := time.days.toNat_lt
  have hmsec := time.msec.toNat_lt
  have hleap := leapSeconds.toNat_lt
  have hday : (of dayMs).Yields 86400000 := of_yields (by decide)
  have hcycles : (of time.fourYear.toNat * of 1461 * of dayMs).Yields
      (time.fourYear.toNat * 1461 * 86400000) :=
    ((of_yields (by omega)).mul (of_yields (by decide)) (by omega)).mul hday (by omega)
  have hdayCount : (of time.days.toNat * of dayMs).Yields (time.days.toNat * 86400000) :=
    (of_yields (by omega)).mul hday (by omega)
  have hwithin : (of time.msec.toNat).Yields time.msec.toNat := of_yields (by omega)
  have hepoch : (of 5838 * of dayMs).Yields (5838 * 86400000) :=
    (of_yields (by decide)).mul hday (by decide)
  have hahead : (of 3 * of 3600 * of 1000).Yields (3 * 3600 * 1000) :=
    ((of_yields (by decide)).mul (of_yields (by decide)) (by decide)).mul
      (of_yields (by decide)) (by decide)
  have hbehind : (of leapSeconds.toNat * of 1000).Yields (leapSeconds.toNat * 1000) :=
    (of_yields (by omega)).mul (of_yields (by decide)) (by omega)
  have hlocal := ((hcycles.add hdayCount (by omega)).add hwithin (by omega)).add hepoch (by omega)
  have htotal := (hlocal.sub hahead (by omega) (by omega)).add hbehind (by omega)
  have hexact : (time.fourYear.toNat * 1461 * 86400000 + time.days.toNat * 86400000 +
      time.msec.toNat + 5838 * 86400000 - 3 * 3600 * 1000 + leapSeconds.toNat * 1000 : Int) =
        time.elapsedMs leapSeconds := by
    unfold elapsedMs dayMs
    omega
  rw [← hexact]
  exact htotal

/-- The GPS time; each step of the sum fits, so the sum is there. -/
def toGps (time : GlonassTime) (leapSeconds : UInt8) : GpsTime :=
  .ofMilliseconds
    ((time.sinceGpsEpoch leapSeconds).get ⟨_, time.sinceGpsEpoch_yields leapSeconds⟩).toNat

end GlonassTime

namespace GnssTime

/-- The GPS week and time of week; GLONASS time needs the leap seconds. -/
def toGps? (time : GnssTime) (leapSeconds : Option UInt8) : Option GpsTime :=
  match time with
  | .gps time | .galileo time | .beidou time | .qzss time => some ⟨time.week, time.weekMs⟩
  | .glonass time => leapSeconds.map time.toGps

end GnssTime

end GnssAdapter
