import GnssAdapter.Proofs.Mask

/-!
The mapping of event masks as an algebra.

A translation has a flag exactly if some flag of the mask stands for it, and it has no unnamed bits.
So translations of masks are equal, or contained in each other, as soon as the flags say so, and
whoever merges masks may do it before or after the mapping.
-/

namespace GnssAdapter

namespace Mask

variable {φ ψ : Type} [Flag φ] [DecidableEq φ] [LawfulFlag φ]
  [Flag ψ] [DecidableEq ψ] [LawfulFlag ψ]

theorem translate_union (table : φ → List ψ) (left right : Mask φ) :
    (left ∪ right).translate table = left.translate table ∪ right.translate table := by
  refine IsNamed.ext (isNamed_translate _ _)
    ((isNamed_translate _ _).union (isNamed_translate _ _)) fun target => ?_
  rw [has_union, Bool.or_eq_true, has_translate, has_translate, has_translate, ← exists_or]
  refine exists_congr fun flag => ?_
  rw [has_union, Bool.or_eq_true, or_and_right]

/-- Two masks with the same flags have the same translation. -/
theorem translate_congr (table : φ → List ψ) {left right : Mask φ}
    (hflags : ∀ flag, left.has flag = right.has flag) :
    left.translate table = right.translate table := by
  refine IsNamed.ext (isNamed_translate _ _) (isNamed_translate _ _) fun target => ?_
  simp only [has_translate, hflags]

theorem translate_inter_full (table : φ → List ψ) (mask : Mask φ) :
    (mask ∩ full φ).translate table = mask.translate table := by
  apply translate_congr
  intro flag
  rw [has_inter, has_full, Bool.and_true]

theorem translate_contains (table : φ → List ψ) {mask part : Mask φ}
    (hcontains : mask.contains part = true) :
    (mask.translate table).contains (part.translate table) = true := by
  refine IsNamed.contained (isNamed_translate _ _) fun target htarget => ?_
  obtain ⟨flag, hflag, hmem⟩ := (has_translate ..).mp htarget
  exact (has_translate ..).mpr ⟨flag, has_of_contains hcontains hflag, hmem⟩

end Mask

theorem AdapterEvent.subscribes_ne_nil (event : AdapterEvent) (batchedBreach : Bool) :
    event.subscribes batchedBreach ≠ [] := by
  cases batchedBreach <;> cases event <;> exact List.cons_ne_nil _ _

theorem symmDiff_nativeEvents (mask : Mask AdapterEvent) (first second : Bool) :
    (Mask.ofList [NativeEvent.geofenceBreach, .geofenceBatchBreach]).contains
      ((nativeEvents mask first).symmDiff (nativeEvents mask second)) = true := by
  refine Mask.IsNamed.contained
    ((nativeEvents_isNamed _ _).symmDiff (nativeEvents_isNamed _ _)) fun native hnative => ?_
  rw [Mask.has_symmDiff, bne_iff_ne] at hnative
  rw [Mask.has_ofList_iff]
  by_contra hother
  exact hnative (nativeEvents_has_eq hother mask first second)

/-- Support for batched breaches matters only where a batched breach is asked for. -/
theorem nativeEvents_eq_of_not_batched {mask : Mask AdapterEvent}
    (hnone : mask.has .batchedGeofenceBreach = false) (first second : Bool) :
    nativeEvents mask first = nativeEvents mask second := by
  refine Mask.IsNamed.ext (nativeEvents_isNamed _ _) (nativeEvents_isNamed _ _) fun native => ?_
  rw [nativeEvents_has, nativeEvents_has]
  refine exists_congr fun event => and_congr_right fun hevent => ?_
  have hother : event ≠ .batchedGeofenceBreach := by
    rintro rfl
    rw [hnone] at hevent
    cases hevent
  rw [AdapterEvent.subscribes_eq hother first second]

/-- The mapping of events is additive. It reads the named events and drops none of them, so it is
monotone, and excluding events never adds any. Support for batched breaches moves nothing but the
breach events, and the gate takes the gated events and no other. -/
theorem nativeEvents_algebra (mask other : Mask AdapterEvent) (batchedBreach : Bool) :
    nativeEvents (mask ∪ other) batchedBreach =
        nativeEvents mask batchedBreach ∪ nativeEvents other batchedBreach ∧
      nativeEvents (mask ∩ .full AdapterEvent) batchedBreach = nativeEvents mask batchedBreach ∧
      (∀ event, ∃ native, (nativeEvents (.single event) batchedBreach).has native = true) ∧
      (mask.contains other = true →
        (nativeEvents mask batchedBreach).contains (nativeEvents other batchedBreach) = true) ∧
      (nativeEvents mask batchedBreach).contains
        (nativeEvents (mask \ other) batchedBreach) = true ∧
      (Mask.ofList [NativeEvent.geofenceBreach, .geofenceBatchBreach]).contains
        ((nativeEvents mask true).symmDiff (nativeEvents mask false)) = true ∧
      (mask.has .batchedGeofenceBreach = false →
        nativeEvents mask true = nativeEvents mask false) ∧
      registrationMask mask false batchedBreach =
        registrationMask mask true batchedBreach \ NativeEvent.sessionGated ∧
      (registrationMask mask false batchedBreach).intersects NativeEvent.sessionGated = false := by
  refine ⟨Mask.translate_union .., Mask.translate_inter_full .., ?_,
    Mask.translate_contains _, Mask.translate_contains _ (Mask.contains_sdiff ..),
    symmDiff_nativeEvents .., fun hnone => nativeEvents_eq_of_not_batched hnone .., rfl,
    Mask.sdiff_not_intersects ..⟩
  intro event
  obtain ⟨native, hnative⟩ := List.exists_mem_of_ne_nil _ (event.subscribes_ne_nil batchedBreach)
  refine ⟨native, (nativeEvents_has ..).mpr ⟨event, ?_, hnative⟩⟩
  exact (Mask.has_single ..).mpr rfl

end GnssAdapter
