import GnssAdapter.Epoch.Processed
import GnssAdapter.Proofs.Mask

/-!
Tracking states. Each flag of a state has a rule of its own for when it is there (`Attained`), and the
state is exactly what the rules say (`state_has_iff`). How the levels lie on each other is then read
off the rules.
-/

namespace GnssAdapter

instance : LawfulFlag TrackingState :=
  .of_nodup (fun flag => by cases flag <;> decide) (by decide) (by decide)

namespace FragmentMeasurement

/-- The measurement claims a status, and the claim is valid. -/
def Holds (native : FragmentMeasurement) (status : MeasurementStatus) : Prop :=
  native.status.has status = true ∧ native.validStatus.has status = true

/-- The satellite time is known to the millisecond. -/
def KnowsTime (native : FragmentMeasurement) : Prop :=
  native.Holds .msValid

/-- The edges of the bits are confirmed, and the time within a bit is known. -/
def KnowsBit (native : FragmentMeasurement) : Prop :=
  native.Holds .beConfirm ∧ native.Holds .sbValid

/-- The time within a millisecond is known. -/
def KnowsCode (native : FragmentMeasurement) : Prop :=
  native.Holds .smValid

theorem holds_iff (native : FragmentMeasurement) (status : MeasurementStatus) :
    (native.status ∩ native.validStatus).has status = true ↔ native.Holds status := by
  rw [Mask.has_inter, Bool.and_eq_true]
  rfl

theorem knowsBit_iff (native : FragmentMeasurement) :
    ((native.status ∩ native.validStatus).has .beConfirm &&
        (native.status ∩ native.validStatus).has .sbValid) = true ↔ native.KnowsBit := by
  rw [Bool.and_eq_true, holds_iff, holds_iff]
  rfl

end FragmentMeasurement

namespace Tracking

variable (satellite : MeasuredSatellite) (native : FragmentMeasurement) (glonassTimeKnown : Bool)

/-- What it takes for a state to have a flag. Galileo's locks join every level, and the flags of the
other constellations the highest one. -/
def Attained : TrackingState → Prop
  | .codeLock => native.KnowsTime ∨ native.KnowsBit ∨ native.KnowsCode
  | .bitSync => native.KnowsTime ∨ native.KnowsBit
  | .subframeSync | .towDecoded => native.KnowsTime
  | .gloStringSync | .gloTodDecoded => native.KnowsTime ∧ glonassTimeKnown = true
  | .bdsD2BitSync | .bdsD2SubframeSync => native.KnowsTime ∧ isGeostationary satellite = true
  | .galE1bcCodeLock =>
      (native.KnowsTime ∨ native.KnowsBit ∨ native.KnowsCode) ∧ satellite.constellation = .galileo
  | .galE1c2ndCodeLock =>
      (native.KnowsTime ∨ native.KnowsBit ∨ native.KnowsCode) ∧
        satellite.constellation = .galileo ∧ native.status.has .gal100ms = true
  | .galE1bPageSync =>
      (native.KnowsTime ∨ native.KnowsBit ∨ native.KnowsCode) ∧
        satellite.constellation = .galileo ∧ native.status.has .gal2s = true
  | .msecAmbiguous | .symbolSync | .sbasSync => False

/-! ### Level by level -/

/-- The highest level that is known decides the state. -/
theorem state_cases :
    native.KnowsTime ∧ (ofMeasurement satellite native glonassTimeKnown).state =
        decodedState satellite glonassTimeKnown ∪ galileoLocks satellite native.status ∨
      ¬native.KnowsTime ∧ native.KnowsBit ∧
        (ofMeasurement satellite native glonassTimeKnown).state =
          .ofList [.bitSync, .codeLock] ∪ galileoLocks satellite native.status ∨
      ¬native.KnowsTime ∧ ¬native.KnowsBit ∧ native.KnowsCode ∧
        (ofMeasurement satellite native glonassTimeKnown).state =
          .ofList [.codeLock] ∪ galileoLocks satellite native.status ∨
      ¬native.KnowsTime ∧ ¬native.KnowsBit ∧ ¬native.KnowsCode ∧
        ofMeasurement satellite native glonassTimeKnown = {} := by
  unfold ofMeasurement
  dsimp only
  by_cases htime : native.KnowsTime
  · rw [if_pos ((native.holds_iff _).mpr htime)]
    exact .inl ⟨htime, rfl⟩
  rw [if_neg (mt (native.holds_iff _).mp htime)]
  by_cases hbit : native.KnowsBit
  · rw [if_pos (native.knowsBit_iff.mpr hbit)]
    exact .inr (.inl ⟨htime, hbit, rfl⟩)
  rw [if_neg (mt native.knowsBit_iff.mp hbit)]
  by_cases hcode : native.KnowsCode
  · rw [if_pos ((native.holds_iff _).mpr hcode)]
    exact .inr (.inr (.inl ⟨htime, hbit, hcode, rfl⟩))
  rw [if_neg (mt (native.holds_iff _).mp hcode)]
  exact .inr (.inr (.inr ⟨htime, hbit, hcode, rfl⟩))

theorem ofMeasurement_of_none (htime : ¬native.KnowsTime) (hbit : ¬native.KnowsBit)
    (hcode : ¬native.KnowsCode) : ofMeasurement satellite native glonassTimeKnown = {} := by
  rcases state_cases satellite native glonassTimeKnown with
    ⟨hknown, -⟩ | ⟨-, hknown, -⟩ | ⟨-, -, hknown, -⟩ | ⟨-, -, -, hnone⟩
  · exact absurd hknown htime
  · exact absurd hknown hbit
  · exact absurd hknown hcode
  · exact hnone

/-! ### Flag by flag -/

theorem isGeostationary_iff :
    isGeostationary satellite = true ↔
      satellite.constellation = .beidou ∧ 1 ≤ satellite.id ∧ satellite.id ≤ 5 := by
  unfold isGeostationary
  rw [Bool.and_eq_true, Bool.and_eq_true, decide_eq_true_iff, decide_eq_true_iff,
    decide_eq_true_iff, and_assoc]

theorem decodedState_has (flag : TrackingState) :
    (decodedState satellite glonassTimeKnown).has flag = true ↔
      flag ∈ [.subframeSync, .towDecoded, .bitSync, .codeLock] ∨
        glonassTimeKnown = true ∧ flag ∈ [.gloStringSync, .gloTodDecoded] ∨
        isGeostationary satellite = true ∧ flag ∈ [.bdsD2BitSync, .bdsD2SubframeSync] := by
  unfold decodedState
  rw [Mask.has_ofList_iff, List.mem_append, List.mem_append, or_assoc]
  cases glonassTimeKnown <;> cases isGeostationary satellite <;> simp

theorem galileoLocks_has (status : Mask MeasurementStatus) (flag : TrackingState) :
    (galileoLocks satellite status).has flag = true ↔
      satellite.constellation = .galileo ∧ (flag = .galE1bcCodeLock ∨
        flag = .galE1c2ndCodeLock ∧ status.has .gal100ms = true ∨
        flag = .galE1bPageSync ∧ status.has .gal2s = true) := by
  unfold galileoLocks
  by_cases hgalileo : satellite.constellation = .galileo
  · rw [if_pos hgalileo, Mask.has_ofList_iff]
    cases status.has .gal100ms <;> cases status.has .gal2s <;> simp [hgalileo]
  · rw [if_neg hgalileo]
    exact iff_of_false (Bool.eq_false_iff.mp (Mask.has_empty _)) fun hlocks => hgalileo hlocks.1

/-- A state has exactly the flags that its measurement attains. -/
theorem state_has_iff (flag : TrackingState) :
    (ofMeasurement satellite native glonassTimeKnown).state.has flag = true ↔
      Attained satellite native glonassTimeKnown flag := by
  rcases state_cases satellite native glonassTimeKnown with
    ⟨htime, hstate⟩ | ⟨htime, hbit, hstate⟩ | ⟨htime, hbit, hcode, hstate⟩ |
      ⟨htime, hbit, hcode, hnone⟩
  · rw [hstate, Mask.has_union, Bool.or_eq_true, decodedState_has, galileoLocks_has]
    cases flag <;> simp [Attained, htime]
  · rw [hstate, Mask.has_union, Bool.or_eq_true, Mask.has_ofList_iff, galileoLocks_has]
    cases flag <;> simp [Attained, htime, hbit]
  · rw [hstate, Mask.has_union, Bool.or_eq_true, Mask.has_ofList_iff, galileoLocks_has]
    cases flag <;> simp [Attained, htime, hbit, hcode]
  · rw [hnone, Mask.has_empty]
    cases flag <;> simp [Attained, htime, hbit, hcode]

theorem galileoLocks_isNamed (status : Mask MeasurementStatus) :
    (galileoLocks satellite status).IsNamed := by
  unfold galileoLocks
  split
  · exact .ofList _
  · exact .empty

theorem state_isNamed : (ofMeasurement satellite native glonassTimeKnown).state.IsNamed := by
  have hlocks := galileoLocks_isNamed satellite native.status
  rcases state_cases satellite native glonassTimeKnown with
    ⟨-, hstate⟩ | ⟨-, -, hstate⟩ | ⟨-, -, -, hstate⟩ | ⟨-, -, -, hnone⟩
  · rw [hstate]
    exact .union (.ofList _) hlocks
  · rw [hstate]
    exact .union (.ofList _) hlocks
  · rw [hstate]
    exact .union (.ofList _) hlocks
  · rw [hnone]
    exact .empty

theorem state_eq_empty_iff :
    (ofMeasurement satellite native glonassTimeKnown).state = ∅ ↔
      ¬native.KnowsTime ∧ ¬native.KnowsBit ∧ ¬native.KnowsCode := by
  constructor
  · intro hempty
    have hcodeLock := state_has_iff satellite native glonassTimeKnown .codeLock
    rw [hempty, Mask.has_empty] at hcodeLock
    simpa [Attained] using hcodeLock
  · rintro ⟨htime, hbit, hcode⟩
    rw [ofMeasurement_of_none _ _ _ htime hbit hcode]

/-- How the flags of a state lie on each other, and what each of them rests on. -/
structure Hierarchy (tracking : Tracking) : Prop where
  htowDecoded : tracking.state.has .towDecoded = true ↔ native.Holds .msValid
  hsubframeSync : tracking.state.has .subframeSync = true ↔ native.Holds .msValid
  hbitSync : tracking.state.has .towDecoded = true → tracking.state.has .bitSync = true
  hcodeLock : tracking.state.has .bitSync = true → tracking.state.has .codeLock = true
  hconfirmed : tracking.state.has .bitSync = true → ¬native.Holds .msValid →
    native.Holds .beConfirm ∧ native.Holds .sbValid
  hempty : tracking.state = ∅ ↔ ¬native.Holds .msValid ∧
    ¬(native.Holds .beConfirm ∧ native.Holds .sbValid) ∧ ¬native.Holds .smValid
  huntimed : tracking.state = ∅ → tracking.timeNs = 0 ∧ tracking.uncertaintyNs = 0
  hgalileo : ∀ flag ∈ [TrackingState.galE1bcCodeLock, .galE1c2ndCodeLock, .galE1bPageSync],
    tracking.state.has flag = true → satellite.constellation = .galileo ∧ tracking.state ≠ ∅
  hglonass : ∀ flag ∈ [TrackingState.gloStringSync, .gloTodDecoded],
    tracking.state.has flag = true →
      glonassTimeKnown = true ∧ tracking.state.has .towDecoded = true
  hbeidou : ∀ flag ∈ [TrackingState.bdsD2BitSync, .bdsD2SubframeSync],
    tracking.state.has flag = true → satellite.constellation = .beidou ∧
      1 ≤ satellite.id ∧ satellite.id ≤ 5 ∧ tracking.state.has .towDecoded = true
  hnamed : ∀ index, tracking.state.bits.getLsbD index = true →
    ∃ flag ∉ [TrackingState.msecAmbiguous, .symbolSync, .sbasSync], Flag.bit flag = index

/-- Tracking states form a hierarchy. -/
theorem ofMeasurement_hierarchy :
    Hierarchy satellite native glonassTimeKnown
      (ofMeasurement satellite native glonassTimeKnown) := by
  have hhas := state_has_iff satellite native glonassTimeKnown
  have hempty := state_eq_empty_iff satellite native glonassTimeKnown
  constructor
  case htowDecoded => exact hhas .towDecoded
  case hsubframeSync => exact hhas .subframeSync
  case hbitSync =>
    rw [hhas, hhas]
    exact .inl
  case hcodeLock =>
    rw [hhas, hhas]
    exact Or.imp_right .inl
  case hconfirmed =>
    rw [hhas]
    exact Or.resolve_left
  case hempty => exact hempty
  case huntimed =>
    intro hnone
    obtain ⟨htime, hbit, hcode⟩ := hempty.mp hnone
    rw [ofMeasurement_of_none _ _ _ htime hbit hcode]
    exact ⟨rfl, rfl⟩
  case hgalileo =>
    intro flag hflag hset
    have hrule : (native.KnowsTime ∨ native.KnowsBit ∨ native.KnowsCode) ∧
        satellite.constellation = .galileo := by
      rw [hhas] at hset
      simp only [List.mem_cons, List.not_mem_nil, or_false] at hflag
      rcases hflag with rfl | rfl | rfl
      · exact hset
      · exact ⟨hset.1, hset.2.1⟩
      · exact ⟨hset.1, hset.2.1⟩
    refine ⟨hrule.2, fun hnone => ?_⟩
    obtain ⟨htime, hbit, hcode⟩ := hempty.mp hnone
    exact hrule.1.elim htime (Or.elim · hbit hcode)
  case hglonass =>
    intro flag hflag hset
    have hrule : native.KnowsTime ∧ glonassTimeKnown = true := by
      rw [hhas] at hset
      simp only [List.mem_cons, List.not_mem_nil, or_false] at hflag
      rcases hflag with rfl | rfl <;> exact hset
    exact ⟨hrule.2, (hhas .towDecoded).mpr hrule.1⟩
  case hbeidou =>
    intro flag hflag hset
    have hrule : native.KnowsTime ∧ isGeostationary satellite = true := by
      rw [hhas] at hset
      simp only [List.mem_cons, List.not_mem_nil, or_false] at hflag
      rcases hflag with rfl | rfl <;> exact hset
    obtain ⟨hbeidou, hfirst, hlast⟩ := (isGeostationary_iff satellite).mp hrule.2
    exact ⟨hbeidou, hfirst, hlast, (hhas .towDecoded).mpr hrule.1⟩
  case hnamed =>
    intro index hindex
    obtain ⟨flag, rfl⟩ := state_isNamed satellite native glonassTimeKnown index hindex
    refine ⟨flag, fun hunused => ?_, rfl⟩
    have hset := (hhas flag).mp hindex
    simp only [List.mem_cons, List.not_mem_nil, or_false] at hunused
    rcases hunused with rfl | rfl | rfl <;> exact hset

end Tracking

/-- The GLONASS flags of a processed measurement tell of a GLONASS satellite in an epoch whose
GLONASS time is known. -/
theorem FragmentMeasurement.processed_glonass (native : FragmentMeasurement)
    (fragment : MeasurementFragment) {flag : TrackingState}
    (hflag : flag ∈ [TrackingState.gloStringSync, .gloTodDecoded])
    (hset : (native.processed fragment).state.has flag = true) :
    (native.processed fragment).constellation = .glonass ∧
      ∃ time, fragment.glonassTime = some time ∧ time.isKnown = true := by
  have hattained := (Tracking.state_has_iff _ native _ flag).mp hset
  have hknown : ((native.satellite fragment.system).constellation = .glonass &&
      fragment.glonassTime.any GlonassTime.isKnown) = true := by
    simp only [List.mem_cons, List.not_mem_nil, or_false] at hflag
    rcases hflag with rfl | rfl <;> exact hattained.2
  rw [Bool.and_eq_true, decide_eq_true_iff, Option.any_eq_true] at hknown
  exact hknown

end GnssAdapter
