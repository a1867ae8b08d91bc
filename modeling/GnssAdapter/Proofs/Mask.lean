import Mathlib.Data.List.Nodup
import GnssAdapter.Event.Mapping

/-!
Masks as sets of bits, and which native events a mask of abstract events subscribes.
-/

namespace GnssAdapter

namespace Mask

variable {φ : Type} [Flag φ]

theorem ext_getLsbD {left right : Mask φ}
    (hbits : ∀ index, left.bits.getLsbD index = right.bits.getLsbD index) : left = right := by
  have heq : left.bits = right.bits := BitVec.eq_of_getLsbD_eq fun index _ => hbits index
  cases left
  cases right
  exact congrArg Mask.mk heq

theorem getLsbD_union (left right : Mask φ) (index : Nat) :
    (left ∪ right).bits.getLsbD index =
      (left.bits.getLsbD index || right.bits.getLsbD index) :=
  BitVec.getLsbD_or

theorem getLsbD_empty (index : Nat) : (∅ : Mask φ).bits.getLsbD index = false :=
  BitVec.getLsbD_zero

theorem getLsbD_sdiff (left right : Mask φ) (index : Nat) :
    (left \ right).bits.getLsbD index =
      (left.bits.getLsbD index && !right.bits.getLsbD index) := by
  change (left.bits &&& ~~~right.bits).getLsbD index = _
  rw [BitVec.getLsbD_and, BitVec.getLsbD_not]
  by_cases hwithin : index < Flag.width φ
  · simp [hwithin]
  · simp [hwithin, BitVec.getLsbD_of_ge left.bits index (Nat.le_of_not_lt hwithin)]

theorem getLsbD_symmDiff (left right : Mask φ) (index : Nat) :
    (left.symmDiff right).bits.getLsbD index =
      (left.bits.getLsbD index ^^ right.bits.getLsbD index) :=
  BitVec.getLsbD_xor

theorem intersects_eq_false_iff (left right : Mask φ) :
    left.intersects right = false ↔
      ∀ index, (left.bits.getLsbD index && right.bits.getLsbD index) = false := by
  unfold intersects
  rw [bne_eq_false_iff_eq]
  constructor
  · intro hnone index
    rw [← BitVec.getLsbD_and, hnone]
    exact BitVec.getLsbD_zero
  · intro hbits
    apply BitVec.eq_of_getLsbD_eq
    intro index _
    rw [BitVec.getLsbD_and, hbits]
    exact BitVec.getLsbD_zero.symm

theorem union_intersects_eq_false_iff (left right part : Mask φ) :
    (left ∪ right).intersects part = false ↔
      left.intersects part = false ∧ right.intersects part = false := by
  simp only [intersects_eq_false_iff, getLsbD_union, Bool.and_or_distrib_right,
    Bool.or_eq_false_iff, forall_and]

theorem sdiff_intersects_eq_false {mask part : Mask φ} (hnone : mask.intersects part = false)
    (taken : Mask φ) : (mask \ taken).intersects part = false := by
  rw [intersects_eq_false_iff] at hnone ⊢
  intro index
  rw [getLsbD_sdiff, Bool.and_right_comm, hnone, Bool.false_and]

theorem union_sdiff (left right taken : Mask φ) :
    (left ∪ right) \ taken = (left \ taken) ∪ (right \ taken) := by
  apply ext_getLsbD
  intro index
  simp only [getLsbD_sdiff, getLsbD_union, Bool.and_or_distrib_right]

theorem union_comm (left right : Mask φ) : left ∪ right = right ∪ left := by
  apply ext_getLsbD
  intro index
  simp only [getLsbD_union, Bool.or_comm]

theorem union_union_self (mask part : Mask φ) : mask ∪ part ∪ part = mask ∪ part := by
  apply ext_getLsbD
  intro index
  simp only [getLsbD_union, Bool.or_assoc, Bool.or_self]

theorem empty_union (mask : Mask φ) : ∅ ∪ mask = mask := by
  apply ext_getLsbD
  intro index
  simp only [getLsbD_union, getLsbD_empty, Bool.false_or]

theorem sdiff_sdiff_self (mask part : Mask φ) : (mask \ part) \ part = mask \ part := by
  apply ext_getLsbD
  intro index
  change (mask.bits &&& ~~~part.bits &&& ~~~part.bits).getLsbD index =
    (mask.bits &&& ~~~part.bits).getLsbD index
  rw [BitVec.and_assoc, BitVec.and_self]

theorem isEmpty_iff (mask : Mask φ) : mask.isEmpty = true ↔ mask = ∅ := by
  unfold isEmpty
  rw [beq_iff_eq]
  constructor
  · intro hbits
    apply ext_getLsbD
    intro index
    rw [hbits, getLsbD_empty]
    exact BitVec.getLsbD_zero
  · rintro rfl
    rfl

theorem nonempty?_eq_some_iff {mask part : Mask φ} :
    mask.nonempty? = some part ↔ mask ≠ ∅ ∧ mask = part := by
  unfold nonempty?
  rw [ne_eq, ← isEmpty_iff]
  cases mask.isEmpty <;> simp

theorem nonempty?_eq_none_iff {mask : Mask φ} : mask.nonempty? = none ↔ mask = ∅ := by
  unfold nonempty?
  rw [← isEmpty_iff]
  cases mask.isEmpty <;> simp

theorem contains_iff (mask part : Mask φ) :
    mask.contains part = true ↔
      ∀ index, part.bits.getLsbD index = true → mask.bits.getLsbD index = true := by
  unfold contains
  rw [beq_iff_eq]
  constructor
  · intro hwhole index hpart
    rw [← hwhole, BitVec.getLsbD_and, Bool.and_eq_true] at hpart
    exact hpart.1
  · intro hbits
    apply BitVec.eq_of_getLsbD_eq
    intro index _
    rw [BitVec.getLsbD_and]
    cases hpart : part.bits.getLsbD index with
    | false => rw [Bool.and_false]
    | true => rw [hbits index hpart, Bool.and_true]

theorem contains_sdiff (mask taken : Mask φ) : mask.contains (mask \ taken) = true := by
  rw [contains_iff]
  intro index hindex
  rw [getLsbD_sdiff, Bool.and_eq_true] at hindex
  exact hindex.1

theorem sdiff_not_intersects (mask taken : Mask φ) : (mask \ taken).intersects taken = false := by
  rw [intersects_eq_false_iff]
  intro index
  rw [getLsbD_sdiff]
  cases taken.bits.getLsbD index <;> simp

/-- What has been taken away meets no part of it. -/
theorem not_intersects_sdiff (mask taken kept : Mask φ) :
    (mask \ taken).intersects (taken \ kept) = false := by
  have hnone : (mask \ taken).bits &&& (taken \ kept).bits = 0 := by
    apply BitVec.eq_of_getLsbD_eq
    intro index _
    change ((mask.bits &&& ~~~taken.bits) &&& (taken.bits &&& ~~~kept.bits)).getLsbD index = _
    simp only [BitVec.getLsbD_and, BitVec.getLsbD_not]
    cases taken.bits.getLsbD index <;> simp
  unfold intersects
  rw [hnone]
  exact bne_self_eq_false 0

variable [DecidableEq φ]

theorem has_union (left right : Mask φ) (flag : φ) :
    (left ∪ right).has flag = (left.has flag || right.has flag) :=
  getLsbD_union left right _

theorem has_empty (flag : φ) : (∅ : Mask φ).has flag = false :=
  getLsbD_empty _

theorem has_symmDiff (left right : Mask φ) (flag : φ) :
    (left.symmDiff right).has flag = (left.has flag != right.has flag) :=
  getLsbD_symmDiff left right _

theorem bit_eq_of_getLsbD_single {flag : φ} {index : Nat}
    (hsingle : (single flag).bits.getLsbD index = true) : Flag.bit flag = index := by
  unfold single at hsingle
  rw [BitVec.getLsbD_twoPow, Bool.and_eq_true] at hsingle
  exact of_decide_eq_true hsingle.2

theorem has_eq_false_of_not_intersects {mask part : Mask φ} (hnone : mask.intersects part = false)
    {flag : φ} (hpart : part.has flag = true) : mask.has flag = false := by
  have hbit := (intersects_eq_false_iff mask part).mp hnone (Flag.bit flag)
  unfold has at hpart ⊢
  rwa [hpart, Bool.and_true] at hbit

/-- A mask without a flag meets what it meets apart from the flag. -/
theorem intersects_eq_false_of_sdiff_single {mask part : Mask φ} {flag : φ}
    (hnone : (mask \ single flag).intersects part = false) (habsent : mask.has flag = false) :
    mask.intersects part = false := by
  rw [intersects_eq_false_iff] at hnone ⊢
  intro index
  have hbit := hnone index
  rw [getLsbD_sdiff] at hbit
  by_cases hsingle : (single flag).bits.getLsbD index = true
  · unfold has at habsent
    rw [← bit_eq_of_getLsbD_single hsingle, habsent, Bool.false_and]
  · rwa [Bool.eq_false_iff.mpr hsingle, Bool.not_false, Bool.and_true] at hbit

theorem getLsbD_foldl_union (flags : List φ) (mask : Mask φ) (index : Nat) :
    (flags.foldl (fun mask flag => mask ∪ single flag) mask).bits.getLsbD index =
      (mask.bits.getLsbD index || flags.any fun flag => (single flag).bits.getLsbD index) := by
  induction flags generalizing mask with
  | nil => simp
  | cons flag rest ih =>
      rw [List.foldl_cons, ih, getLsbD_union, List.any_cons, Bool.or_assoc]

theorem getLsbD_ofList (flags : List φ) (index : Nat) :
    (ofList flags).bits.getLsbD index =
      flags.any fun flag => (single flag).bits.getLsbD index := by
  unfold ofList
  rw [getLsbD_foldl_union, getLsbD_empty, Bool.false_or]

theorem has_ofList (flags : List φ) (flag : φ) :
    (ofList flags).has flag = flags.any fun other => (single other).has flag :=
  getLsbD_ofList flags _

/-- A mask meets some flags unless it has none of them. -/
theorem intersects_ofList_eq_false_iff (mask : Mask φ) (flags : List φ) :
    mask.intersects (ofList flags) = false ↔ ∀ flag ∈ flags, mask.has flag = false := by
  rw [intersects_eq_false_iff]
  constructor
  · intro hnone flag hflag
    have hbit := hnone (Flag.bit flag)
    rw [getLsbD_ofList] at hbit
    unfold has
    rw [← Bool.not_eq_true]
    intro hhas
    have hwithin : Flag.bit flag < Flag.width φ := BitVec.lt_of_getLsbD hhas
    have hany : (flags.any fun other => (single other).bits.getLsbD (Flag.bit flag)) = true := by
      refine List.any_eq_true.mpr ⟨flag, hflag, ?_⟩
      unfold single
      rw [BitVec.getLsbD_twoPow]
      simp [hwithin]
    rw [hhas, hany] at hbit
    cases hbit
  · intro hlacks index
    rw [getLsbD_ofList]
    cases hany : flags.any fun flag => (single flag).bits.getLsbD index with
    | false => exact Bool.and_false _
    | true =>
        obtain ⟨flag, hflag, hsingle⟩ := List.any_eq_true.mp hany
        have habsent := hlacks flag hflag
        unfold has at habsent
        rw [← bit_eq_of_getLsbD_single hsingle, habsent, Bool.false_and]

end Mask

/-! ### Flags with bits of their own -/

/-- Every flag is listed, its bit is within the masks of the family, and no other flag has it. -/
class LawfulFlag (φ : Type) [Flag φ] [DecidableEq φ] : Prop where
  mem_all (flag : φ) : flag ∈ Flag.all φ
  bit_lt (flag : φ) : Flag.bit flag < Flag.width φ
  bit_inj {left right : φ} (hbit : Flag.bit left = Flag.bit right) : left = right

theorem LawfulFlag.of_nodup {φ : Type} [Flag φ] [DecidableEq φ]
    (hlisted : ∀ flag : φ, flag ∈ Flag.all φ)
    (hwithin : ∀ flag ∈ Flag.all φ, Flag.bit flag < Flag.width φ)
    (hnodup : ((Flag.all φ).map Flag.bit).Nodup) : LawfulFlag φ where
  mem_all := hlisted
  bit_lt flag := hwithin flag (hlisted flag)
  bit_inj := List.inj_on_of_nodup_map hnodup (hlisted _) (hlisted _)

instance : LawfulFlag AdapterEvent :=
  .of_nodup (fun flag => by cases flag <;> decide) (by decide) (by decide)

instance : LawfulFlag NativeEvent :=
  .of_nodup (fun flag => by cases flag <;> decide) (by decide) (by decide)

namespace Mask

variable {φ ψ : Type} [Flag φ] [DecidableEq φ] [Flag ψ] [DecidableEq ψ]

/-- Every bit of the mask is that of a flag. -/
def IsNamed (mask : Mask φ) : Prop :=
  ∀ index, mask.bits.getLsbD index = true → ∃ flag : φ, Flag.bit flag = index

theorem has_inter (left right : Mask φ) (flag : φ) :
    (left ∩ right).has flag = (left.has flag && right.has flag) :=
  BitVec.getLsbD_and

theorem has_of_contains {mask part : Mask φ} (hcontains : mask.contains part = true) {flag : φ}
    (hpart : part.has flag = true) : mask.has flag = true :=
  (contains_iff mask part).mp hcontains _ hpart

namespace IsNamed

variable {mask left right : Mask φ}

theorem ofList (flags : List φ) : (Mask.ofList flags).IsNamed := by
  intro index hindex
  rw [getLsbD_ofList, List.any_eq_true] at hindex
  obtain ⟨flag, -, hflag⟩ := hindex
  exact ⟨flag, bit_eq_of_getLsbD_single hflag⟩

theorem empty : (∅ : Mask φ).IsNamed := by
  intro index hindex
  rw [getLsbD_empty] at hindex
  cases hindex

theorem union (hleft : left.IsNamed) (hright : right.IsNamed) : (left ∪ right).IsNamed := by
  intro index hindex
  rw [getLsbD_union, Bool.or_eq_true] at hindex
  exact hindex.elim (hleft index) (hright index)

theorem symmDiff (hleft : left.IsNamed) (hright : right.IsNamed) :
    (left.symmDiff right).IsNamed := by
  intro index hindex
  rw [getLsbD_symmDiff] at hindex
  by_cases hbit : left.bits.getLsbD index = true
  · exact hleft index hbit
  · rw [Bool.not_eq_true] at hbit
    rw [hbit, Bool.false_xor] at hindex
    exact hright index hindex

/-- Masks without unnamed bits are told apart by their flags. -/
theorem ext (hleft : left.IsNamed) (hright : right.IsNamed)
    (hflags : ∀ flag, left.has flag = true ↔ right.has flag = true) : left = right := by
  apply ext_getLsbD
  intro index
  rw [Bool.eq_iff_iff]
  constructor
  · intro hindex
    obtain ⟨flag, rfl⟩ := hleft index hindex
    exact (hflags flag).mp hindex
  · intro hindex
    obtain ⟨flag, rfl⟩ := hright index hindex
    exact (hflags flag).mpr hindex

theorem contained (hmask : mask.IsNamed) {whole : Mask φ}
    (hflags : ∀ flag, mask.has flag = true → whole.has flag = true) :
    whole.contains mask = true := by
  rw [contains_iff]
  intro index hindex
  obtain ⟨flag, rfl⟩ := hmask index hindex
  exact hflags flag hindex

end IsNamed

section

variable [LawfulFlag φ]

theorem getLsbD_single (flag : φ) (index : Nat) :
    (single flag).bits.getLsbD index = decide (Flag.bit flag = index) := by
  unfold single
  rw [BitVec.getLsbD_twoPow, decide_eq_true (LawfulFlag.bit_lt flag), Bool.true_and]

theorem has_single (flag other : φ) : (single flag).has other = true ↔ flag = other := by
  unfold has
  rw [getLsbD_single, decide_eq_true_iff]
  exact ⟨LawfulFlag.bit_inj, congrArg Flag.bit⟩

theorem has_ofList_iff (flags : List φ) (flag : φ) :
    (ofList flags).has flag = true ↔ flag ∈ flags := by
  rw [has_ofList, List.any_eq_true]
  constructor
  · rintro ⟨other, hother, hsingle⟩
    rwa [← (has_single other flag).mp hsingle]
  · exact fun hflag => ⟨flag, hflag, (has_single flag flag).mpr rfl⟩

theorem has_full (flag : φ) : (full φ).has flag = true :=
  (has_ofList_iff _ flag).mpr (LawfulFlag.mem_all flag)

/-- A translation has what the flags of the mask stand for, and unnamed bits stand for nothing. -/
theorem has_translate [LawfulFlag ψ] (table : φ → List ψ) (mask : Mask φ) (target : ψ) :
    (mask.translate table).has target = true ↔
      ∃ flag, mask.has flag = true ∧ target ∈ table flag := by
  unfold translate flags
  rw [has_ofList_iff, List.mem_flatMap]
  refine exists_congr fun flag => and_congr_left fun _ => ?_
  rw [List.mem_filter]
  exact and_iff_right (LawfulFlag.mem_all flag)

end

theorem isNamed_translate (table : φ → List ψ) (mask : Mask φ) :
    (mask.translate table).IsNamed :=
  .ofList _

end Mask

/-! ### Native events -/

theorem nativeEvents_has (mask : Mask AdapterEvent) (batchedBreach : Bool)
    (native : NativeEvent) :
    (nativeEvents mask batchedBreach).has native = true ↔
      ∃ event, mask.has event = true ∧ native ∈ event.subscribes batchedBreach :=
  Mask.has_translate ..

theorem nativeEvents_isNamed (mask : Mask AdapterEvent) (batchedBreach : Bool) :
    (nativeEvents mask batchedBreach).IsNamed :=
  Mask.isNamed_translate _ _

/-- The engine state is subscribed for status reports and for nothing else. -/
theorem engineState_subscribed {event : AdapterEvent} {batchedBreach : Bool}
    (hstate : .engineState ∈ event.subscribes batchedBreach) : event = .statusReport := by
  cases event with
  | statusReport => rfl
  | _ => cases batchedBreach <;> exact absurd hstate (by decide)

theorem nativeEvents_has_engineState (mask : Mask AdapterEvent) (batchedBreach : Bool) :
    (nativeEvents mask batchedBreach).has .engineState = mask.has .statusReport := by
  rw [Bool.eq_iff_iff, nativeEvents_has]
  constructor
  · rintro ⟨event, hevent, hstate⟩
    rwa [← engineState_subscribed hstate]
  · exact fun hreport => ⟨.statusReport, hreport, .head _⟩

namespace AdapterEvent

/-- Only a batched geofence breach subscribes different events with and without support for it. -/
theorem subscribes_eq {event : AdapterEvent} (hother : event ≠ .batchedGeofenceBreach)
    (first second : Bool) : event.subscribes first = event.subscribes second := by
  cases event with
  | batchedGeofenceBreach => exact absurd rfl hother
  | _ => rfl

theorem breach_of_mem_subscribes {batchedBreach : Bool} {native : NativeEvent}
    (hnative : native ∈ batchedGeofenceBreach.subscribes batchedBreach) :
    native ∈ [NativeEvent.geofenceBreach, .geofenceBatchBreach] := by
  unfold subscribes at hnative
  cases batchedBreach with
  | false => exact List.mem_cons.mpr (.inl (List.mem_singleton.mp hnative))
  | true => exact List.mem_cons_of_mem _ hnative

end AdapterEvent

/-- Support for batched breaches matters at the two breach events only. -/
theorem nativeEvents_has_eq {native : NativeEvent}
    (hother : native ∉ [NativeEvent.geofenceBreach, .geofenceBatchBreach])
    (mask : Mask AdapterEvent) (first second : Bool) :
    (nativeEvents mask first).has native = (nativeEvents mask second).has native := by
  rw [Bool.eq_iff_iff, nativeEvents_has, nativeEvents_has]
  refine exists_congr fun event => and_congr_right fun _ => ?_
  by_cases hbatched : event = .batchedGeofenceBreach
  · rw [hbatched]
    exact iff_of_false (fun hnative => hother (AdapterEvent.breach_of_mem_subscribes hnative))
      fun hnative => hother (AdapterEvent.breach_of_mem_subscribes hnative)
  · rw [AdapterEvent.subscribes_eq hbatched first second]

end GnssAdapter
