import GnssAdapter.Gnss.Epoch

/-!
GLONASS time as GPS time.

Days and milliseconds of GLONASS add up to one count of milliseconds since the GPS epoch. It is
never negative and ends before the weeks run out of 16 bits, so the GPS time is the count itself,
split at the week (`toGps_week`, `toGps_towMs`). Order and leap seconds are then read off the count.
-/

namespace GnssAdapter

namespace GpsTime

theorem ofMilliseconds_week {total : Nat} (hfits : total / weekMs < UInt16.size) :
    (ofMilliseconds total).week.toNat = total / weekMs := by
  unfold ofMilliseconds
  rw [if_pos hfits]
  exact UInt16.toNat_ofNat_of_lt' hfits

theorem towMs_fits (total : Nat) : total % weekMs < UInt32.size :=
  Nat.lt_trans (Nat.mod_lt total (by decide : 0 < weekMs)) (by decide)

theorem ofMilliseconds_towMs (total : Nat) :
    (ofMilliseconds total).towMs.toNat = total % weekMs := by
  unfold ofMilliseconds
  rw [if_pos (towMs_fits total)]
  exact UInt32.toNat_ofNat_of_lt' (towMs_fits total)

/-- A later count is a later time, by the week first and within the week next. -/
theorem split_le_of_le {first second : Int} (hle : first ≤ second) :
    first / weekMs < second / weekMs ∨
      first / weekMs = second / weekMs ∧ first % weekMs ≤ second % weekMs := by
  unfold weekMs
  omega

end GpsTime

namespace GlonassTime

variable (time : GlonassTime) (leapSeconds : UInt8)

/-- Even the greatest counters stay within the weeks that 16 bits can tell. -/
theorem elapsedMs_lt : time.elapsedMs leapSeconds < UInt16.size * weekMs := by
  have hfourYear := time.fourYear.toNat_lt
  have hdays := time.days.toNat_lt
  have hmsec := time.msec.toNat_lt
  have hleap := leapSeconds.toNat_lt
  unfold elapsedMs dayMs weekMs UInt16.size
  omega

theorem exists_total : ∃ total : UInt64,
    (time.sinceGpsEpoch leapSeconds).word? = some total ∧
      (total.toNat : Int) = time.elapsedMs leapSeconds ∧
      time.toGps leapSeconds = .ofMilliseconds total.toNat := by
  have hyields := time.sinceGpsEpoch_yields leapSeconds
  exact ⟨_, CheckedWord.word?_get _ ⟨_, hyields⟩, hyields.toNat_get, rfl⟩

theorem week_fits {total : Nat} (htotal : (total : Int) = time.elapsedMs leapSeconds) :
    total / weekMs < UInt16.size := by
  have hbound := time.elapsedMs_lt leapSeconds
  rw [← htotal] at hbound
  exact Nat.div_lt_of_lt_mul (by rw [Nat.mul_comm]; exact_mod_cast hbound)

theorem toGps_week :
    ((time.toGps leapSeconds).week.toNat : Int) = time.elapsedMs leapSeconds / weekMs := by
  obtain ⟨total, -, htotal, hgps⟩ := time.exists_total leapSeconds
  rw [hgps, GpsTime.ofMilliseconds_week (time.week_fits leapSeconds htotal), ← htotal]
  exact Int.natCast_ediv ..

theorem toGps_towMs :
    ((time.toGps leapSeconds).towMs.toNat : Int) = time.elapsedMs leapSeconds % weekMs := by
  obtain ⟨total, -, htotal, hgps⟩ := time.exists_total leapSeconds
  rw [hgps, GpsTime.ofMilliseconds_towMs, ← htotal]
  exact Int.natCast_emod ..

theorem elapsedMs_succ (hroom : leapSeconds ≠ 255) :
    time.elapsedMs (leapSeconds + 1) = time.elapsedMs leapSeconds + 1000 := by
  have hnext : (leapSeconds + 1).toNat = leapSeconds.toNat + 1 := by
    have hleap := leapSeconds.toNat_lt
    have hother : leapSeconds.toNat ≠ 255 := fun heq => hroom (UInt8.toNat_inj.mp heq)
    rw [UInt8.toNat_add]
    change (leapSeconds.toNat + 1) % 256 = _
    omega
  unfold elapsedMs
  rw [hnext]
  omega

/-- The conversion is exact. No step of the sum leaves the 64 bits, and neither part of the result
is held at its greatest value. So times are ordered as their counts are, and one more leap second is
one second more, which goes into the next week where this one ends. -/
theorem toGps_exact :
    (∃ total : UInt64, (time.sinceGpsEpoch leapSeconds).word? = some total ∧
        (total.toNat : Int) = time.elapsedMs leapSeconds ∧
        total.toNat / weekMs < UInt16.size ∧ total.toNat % weekMs < UInt32.size) ∧
      ((time.toGps leapSeconds).week.toNat * weekMs + (time.toGps leapSeconds).towMs.toNat : Int) =
        time.elapsedMs leapSeconds ∧
      (time.toGps leapSeconds).towMs.toNat < weekMs ∧
      (∀ (other : GlonassTime) (otherLeap : UInt8),
        time.elapsedMs leapSeconds ≤ other.elapsedMs otherLeap →
          (time.toGps leapSeconds).week < (other.toGps otherLeap).week ∨
            (time.toGps leapSeconds).week = (other.toGps otherLeap).week ∧
              (time.toGps leapSeconds).towMs ≤ (other.toGps otherLeap).towMs) ∧
      (leapSeconds ≠ 255 →
        ((time.toGps leapSeconds).towMs.toNat + 1000 < weekMs →
          (time.toGps (leapSeconds + 1)).week.toNat = (time.toGps leapSeconds).week.toNat ∧
            (time.toGps (leapSeconds + 1)).towMs.toNat =
              (time.toGps leapSeconds).towMs.toNat + 1000) ∧
        (weekMs ≤ (time.toGps leapSeconds).towMs.toNat + 1000 →
          (time.toGps (leapSeconds + 1)).week.toNat = (time.toGps leapSeconds).week.toNat + 1 ∧
            (time.toGps (leapSeconds + 1)).towMs.toNat + weekMs =
              (time.toGps leapSeconds).towMs.toNat + 1000)) := by
  have hweek := time.toGps_week leapSeconds
  have htow := time.toGps_towMs leapSeconds
  have hpos : (0 : Int) < weekMs := by decide
  refine ⟨?fits, ?split, ?within, ?ordered, ?carried⟩
  case fits =>
    obtain ⟨total, hword, htotal, -⟩ := time.exists_total leapSeconds
    exact ⟨total, hword, htotal, time.week_fits leapSeconds htotal, GpsTime.towMs_fits _⟩
  case split =>
    rw [hweek, htow]
    exact Int.ediv_mul_add_emod ..
  case within =>
    have hlt := Int.emod_lt_of_pos (time.elapsedMs leapSeconds) hpos
    omega
  case ordered =>
    intro other otherLeap hle
    have hlater := GpsTime.split_le_of_le hle
    rw [← hweek, ← htow, ← other.toGps_week otherLeap, ← other.toGps_towMs otherLeap] at hlater
    rw [UInt16.lt_iff_toNat_lt, ← UInt16.toNat_inj, UInt32.le_iff_toNat_le]
    omega
  case carried =>
    intro hroom
    have hnext := time.elapsedMs_succ leapSeconds hroom
    have hnextWeek := time.toGps_week (leapSeconds + 1)
    have hnextTow := time.toGps_towMs (leapSeconds + 1)
    rw [hnext] at hnextWeek hnextTow
    unfold weekMs at hweek htow hnextWeek hnextTow ⊢
    omega

end GlonassTime

end GnssAdapter
