import Mathlib.Algebra.Order.BigOperators.Group.List
import Mathlib.Algebra.Order.Ring.Nat
import Mathlib.Data.List.Pairwise
import Mathlib.Order.Interval.Finset.Nat
import GnssAdapter.Indication.Position

/-!
The satellites that a fix has used, as masks and as a count.

Each number falls into the range of one constellation at most, and the ranges are narrower than the
masks. So a place of a mask is set exactly for a number that has been marked, and the count of the
places is the count of the numbers.
-/

namespace GnssAdapter

/-! ### Ranges of numbers -/

theorem PrnRange.contains_iff (range : PrnRange) (id : UInt16) :
    range.contains id = true ↔ range.first.toNat ≤ id.toNat ∧ id.toNat ≤ range.last.toNat := by
  unfold contains
  rw [Bool.and_eq_true, decide_eq_true_iff, decide_eq_true_iff, UInt16.le_iff_toNat_le,
    UInt16.le_iff_toNat_le]

namespace Constellation

/-- The ranges ascend without overlap. -/
theorem numbered_pairwise :
    numbered.Pairwise fun lower upper => lower.2.last.toNat < upper.2.first.toNat := by
  decide

/-- Every place of a range fits into a mask. -/
theorem size_le_of_mem_numbered {entry : Constellation × PrnRange} (hentry : entry ∈ numbered) :
    entry.2.size ≤ 64 := by
  have hall : ∀ entry ∈ numbered, entry.2.size ≤ 64 := by decide
  exact hall entry hentry

/-- A number falls into one range at most. -/
theorem eq_of_contains {first second : Constellation × PrnRange} {id : UInt16}
    (hfirst : first ∈ numbered) (hsecond : second ∈ numbered)
    (hcontains : first.2.contains id = true) (hagain : second.2.contains id = true) :
    first = second := by
  let Apart (left right : Constellation × PrnRange) : Prop :=
    ¬(left.2.contains id = true ∧ right.2.contains id = true)
  have hsymm : Std.Symm Apart := ⟨fun _ _ hapart hboth => hapart hboth.symm⟩
  have hapart : numbered.Pairwise Apart := by
    refine numbered_pairwise.imp fun {lower upper} hbelow hboth => ?_
    rw [PrnRange.contains_iff, PrnRange.contains_iff] at hboth
    omega
  by_contra hne
  exact hapart.forall hfirst hsecond hne ⟨hcontains, hagain⟩

/-- Each constellation has one range. -/
theorem eq_of_constellation {first second : Constellation × PrnRange} (hfirst : first ∈ numbered)
    (hsecond : second ∈ numbered) (hsame : first.1 = second.1) : first = second := by
  have hnodup : (numbered.map Prod.fst).Nodup := by decide
  exact List.inj_on_of_nodup_map hnodup hfirst hsecond hsame

theorem ofPrn?_eq_none {id : UInt16} (houtside : ∀ entry ∈ numbered, entry.2.contains id = false) :
    ofPrn? id = none := by
  unfold ofPrn?
  rw [Option.map_eq_none_iff, List.find?_eq_none]
  exact fun entry hentry => Bool.eq_false_iff.mp (houtside entry hentry)

theorem ofPrn?_eq_some {entry : Constellation × PrnRange} {id : UInt16} (hentry : entry ∈ numbered)
    (hcontains : entry.2.contains id = true) :
    ofPrn? id = some (entry.1, id - entry.2.first) := by
  unfold ofPrn?
  cases hfound : numbered.find? fun entry => entry.2.contains id with
  | none => exact absurd hcontains (List.find?_eq_none.mp hfound entry hentry)
  | some found =>
      have hfits := List.find?_some hfound
      rw [eq_of_contains hentry (List.mem_of_find?_eq_some hfound) hcontains hfits]
      rfl

end Constellation

namespace UsedSatellites

open Constellation

/-! ### Marking -/

/-- The mask of a constellation; only the numbered ones have one. -/
def mask (used : UsedSatellites) : Constellation → UInt64
  | .gps => used.gps
  | .glonass => used.glonass
  | .qzss => used.qzss
  | .beidou => used.bds
  | .galileo => used.galileo
  | .sbas | .unknown => 0

theorem ext_mask {left right : UsedSatellites}
    (hmasks : ∀ entry ∈ numbered, left.mask entry.1 = right.mask entry.1) : left = right := by
  unfold numbered at hmasks
  simp only [List.forall_mem_cons] at hmasks
  obtain ⟨hgps, hglonass, hqzss, hbds, hgalileo, -⟩ := hmasks
  cases left
  cases right
  unfold mask at hgps hglonass hqzss hbds hgalileo
  dsimp only at hgps hglonass hqzss hbds hgalileo
  rw [hgps, hglonass, hqzss, hbds, hgalileo]

theorem set_mask (used : UsedSatellites) (place : UInt16) {entry : Constellation × PrnRange}
    (hentry : entry ∈ numbered) (other : Constellation) :
    (used.set place entry.1).mask other =
      if entry.1 = other then used.mask other ||| 1 <<< place.toUInt64 else used.mask other := by
  unfold numbered at hentry
  simp only [List.mem_cons, List.not_mem_nil, or_false] at hentry
  rcases hentry with rfl | rfl | rfl | rfl | rfl <;> cases other <;> rfl

theorem testBit_or_shift (bits : UInt64) {place : UInt16} (hplace : place.toNat < 64)
    (index : Nat) :
    (bits ||| 1 <<< place.toUInt64).toNat.testBit index =
      (bits.toNat.testBit index || decide (place.toNat = index)) := by
  have hpower : (1 <<< place.toUInt64 : UInt64).toNat = 2 ^ place.toNat := by
    rw [UInt64.toNat_shiftLeft, UInt16.toNat_toUInt64, Nat.mod_eq_of_lt hplace]
    exact (congrArg (· % 2 ^ 64) (Nat.one_shiftLeft _)).trans
      (Nat.mod_eq_of_lt (Nat.pow_lt_pow_right (by decide) hplace))
  rw [UInt64.toNat_or, Nat.testBit_or, hpower, Nat.testBit_two_pow]

theorem mark_of_outside (used : UsedSatellites) {id : UInt16}
    (houtside : ∀ entry ∈ numbered, entry.2.contains id = false) : used.mark id = (used, none) := by
  unfold mark
  rw [ofPrn?_eq_none houtside]

theorem mark_of_contains (used : UsedSatellites) {entry : Constellation × PrnRange} {id : UInt16}
    (hentry : entry ∈ numbered) (hcontains : entry.2.contains id = true) :
    used.mark id = (used.set (id - entry.2.first) entry.1, some entry.1) := by
  unfold mark
  rw [ofPrn?_eq_some hentry hcontains]

theorem mark_constellation (used : UsedSatellites) (id : UInt16) :
    (used.mark id).2 = (ofPrn? id).map (·.1) := by
  unfold mark
  cases ofPrn? id <;> rfl

theorem mark_testBit (used : UsedSatellites) (id : UInt16) {entry : Constellation × PrnRange}
    (hentry : entry ∈ numbered) (place : Nat) :
    ((used.mark id).1.mask entry.1).toNat.testBit place = true ↔
      (used.mask entry.1).toNat.testBit place = true ∨
        entry.2.contains id = true ∧ id.toNat = entry.2.first.toNat + place := by
  by_cases hcontains : entry.2.contains id = true
  · obtain ⟨hfirst, hlast⟩ := (PrnRange.contains_iff ..).mp hcontains
    have hplace : (id - entry.2.first).toNat = id.toNat - entry.2.first.toNat :=
      UInt16.toNat_sub_of_le _ _ (UInt16.le_iff_toNat_le.mpr hfirst)
    have hsize := size_le_of_mem_numbered hentry
    unfold PrnRange.size at hsize
    rw [mark_of_contains used hentry hcontains, set_mask _ _ hentry, if_pos rfl,
      testBit_or_shift _ (by omega), Bool.or_eq_true, decide_eq_true_iff, and_iff_right hcontains]
    refine or_congr_right ?_
    omega
  · rw [or_iff_left fun hboth => hcontains hboth.1]
    by_cases hwithin : ∃ other ∈ numbered, other.2.contains id = true
    · obtain ⟨other, hother, hholds⟩ := hwithin
      have hapart : other.1 ≠ entry.1 := by
        intro hsame
        rw [eq_of_constellation hother hentry hsame] at hholds
        exact hcontains hholds
      rw [mark_of_contains used hother hholds, set_mask _ _ hother, if_neg hapart]
    · have houtside : ∀ other ∈ numbered, other.2.contains id = false :=
        fun other hother => Bool.eq_false_iff.mpr fun hholds => hwithin ⟨other, hother, hholds⟩
      rw [mark_of_outside used houtside]

theorem foldl_mark_testBit (ids : List UInt16) (used : UsedSatellites)
    {entry : Constellation × PrnRange} (hentry : entry ∈ numbered) (place : Nat) :
    ((ids.foldl (fun used id => (used.mark id).1) used).mask entry.1).toNat.testBit place = true ↔
      (used.mask entry.1).toNat.testBit place = true ∨
        ∃ id ∈ ids, entry.2.contains id = true ∧ id.toNat = entry.2.first.toNat + place := by
  induction ids generalizing used with
  | nil => simp
  | cons id rest ih =>
      rw [List.foldl_cons, ih, mark_testBit used id hentry, List.exists_mem_cons_iff, or_assoc]

theorem empty_mask (constellation : Constellation) :
    ({} : UsedSatellites).mask constellation = 0 := by
  cases constellation <;> rfl

/-- A place is set exactly for a number that has been marked. -/
theorem markAll_testBit (ids : List UInt16) {entry : Constellation × PrnRange}
    (hentry : entry ∈ numbered) (place : Nat) :
    ((markAll ids).mask entry.1).toNat.testBit place = true ↔
      ∃ id ∈ ids, entry.2.contains id = true ∧ id.toNat = entry.2.first.toNat + place := by
  unfold markAll
  rw [foldl_mark_testBit ids _ hentry, empty_mask, UInt64.toNat_zero, Nat.zero_testBit]
  exact or_iff_right Bool.false_ne_true

theorem markAll_congr {ids other : List UInt16} (hsame : ∀ id, id ∈ other ↔ id ∈ ids) :
    markAll other = markAll ids := by
  refine ext_mask fun entry hentry => ?_
  refine UInt64.toNat_inj.mp (Nat.eq_of_testBit_eq fun place => ?_)
  rw [Bool.eq_iff_iff, markAll_testBit other hentry, markAll_testBit ids hentry]
  simp only [hsame]

/-! ### Counting -/

theorem countBelow_eq_card (bits : UInt64) (size : Nat) :
    countBelow bits size =
      ((Finset.range size).filter fun place => bits.toNat.testBit place = true).card := by
  unfold countBelow
  rw [← List.toFinset_card_of_nodup (List.nodup_range.filter _), List.toFinset_filter,
    List.toFinset_range]

theorem countBelow_le (bits : UInt64) (size : Nat) : countBelow bits size ≤ size :=
  (List.length_filter_le _ _).trans_eq List.length_range

theorem sum_countBelow_le (used : UsedSatellites) :
    (numbered.map fun entry => countBelow (used.mask entry.1) entry.2.size).sum ≤ 142 :=
  (List.sum_le_sum fun entry _ => countBelow_le _ entry.2.size).trans (by decide)

theorem count_toNat (used : UsedSatellites) :
    used.count.toNat =
      (numbered.map fun entry => countBelow (used.mask entry.1) entry.2.size).sum := by
  have htotal := used.sum_countBelow_le
  have hsum : countBelow used.gps PrnRange.gps.size +
      countBelow used.glonass PrnRange.glonass.size + countBelow used.qzss PrnRange.qzss.size +
      countBelow used.bds PrnRange.beidou.size + countBelow used.galileo PrnRange.galileo.size =
        (numbered.map fun entry => countBelow (used.mask entry.1) entry.2.size).sum := by
    simp only [numbered, List.map_cons, List.map_nil, List.sum_cons, List.sum_nil, mask]
    omega
  unfold count
  dsimp only
  rw [hsum, if_pos (by omega)]
  exact UInt8.toNat_ofNat_of_lt (htotal.trans_lt (by decide))

/-- The places set for a constellation are as many as the numbers marked in its range. -/
theorem countBelow_markAll (ids : List UInt16) {entry : Constellation × PrnRange}
    (hentry : entry ∈ numbered) :
    countBelow ((markAll ids).mask entry.1) entry.2.size =
      (ids.toFinset.filter fun id => entry.2.contains id = true).card := by
  rw [countBelow_eq_card]
  symm
  -- Each number in the range stands for its place, counted from the first number.
  apply Finset.card_nbij fun id => id.toNat - entry.2.first.toNat
  case hi =>
    intro id hid
    obtain ⟨hmem, hcontains⟩ := Finset.mem_filter.mp hid
    obtain ⟨hfirst, hlast⟩ := (PrnRange.contains_iff ..).mp hcontains
    have hplace : id.toNat - entry.2.first.toNat < entry.2.size := by
      unfold PrnRange.size
      omega
    refine Finset.mem_filter.mpr ⟨Finset.mem_range.mpr hplace, ?_⟩
    refine (markAll_testBit ids hentry _).mpr ⟨id, List.mem_toFinset.mp hmem, hcontains, ?_⟩
    dsimp only
    omega
  case i_inj =>
    intro id hid other hother hsame
    have hfirst := ((PrnRange.contains_iff ..).mp (Finset.mem_filter.mp hid).2).1
    have hagain := ((PrnRange.contains_iff ..).mp (Finset.mem_filter.mp hother).2).1
    refine UInt16.toNat_inj.mp ?_
    dsimp only at hsame
    omega
  case i_surj =>
    intro place hplace
    obtain ⟨id, hmem, hcontains, hid⟩ :=
      (markAll_testBit ids hentry place).mp (Finset.mem_filter.mp hplace).2
    refine ⟨id, Finset.mem_filter.mpr ⟨List.mem_toFinset.mpr hmem, hcontains⟩, ?_⟩
    dsimp only
    omega

/-- Over ranges that do not overlap, the counts add up. -/
theorem sum_card_contains (ids : Finset UInt16) {entries : List (Constellation × PrnRange)}
    (hascending : entries.Pairwise fun lower upper =>
      lower.2.last.toNat < upper.2.first.toNat) :
    (entries.map fun entry => (ids.filter fun id => entry.2.contains id = true).card).sum =
      (ids.filter fun id => ∃ entry ∈ entries, entry.2.contains id = true).card := by
  induction entries with
  | nil => simp
  | cons entry rest ih =>
      obtain ⟨habove, hrest⟩ := List.pairwise_cons.mp hascending
      have hapart : Disjoint (ids.filter fun id => entry.2.contains id = true)
          (ids.filter fun id => ∃ entry ∈ rest, entry.2.contains id = true) := by
        rw [Finset.disjoint_filter]
        rintro id - hcontains ⟨other, hother, hagain⟩
        have hbelow := habove other hother
        rw [PrnRange.contains_iff] at hcontains hagain
        omega
      rw [List.map_cons, List.sum_cons, ih hrest,
        ← Finset.card_union_eq_card_add_card.mpr hapart, ← Finset.filter_or]
      simp only [List.exists_mem_cons_iff]

theorem count_markAll (ids : List UInt16) :
    (markAll ids).count.toNat =
      (ids.toFinset.filter fun id => ∃ entry ∈ numbered, entry.2.contains id = true).card := by
  rw [count_toNat, ← sum_card_contains _ numbered_pairwise]
  exact congrArg List.sum (List.map_congr_left fun entry hentry => countBelow_markAll ids hentry)

end UsedSatellites

/-! ### Usage entries -/

namespace PositionIndication

/-- The satellites used as the engine lists them, the expanded list first. -/
def listedIds (indication : PositionIndication) : List UInt16 :=
  (indication.expandedUsedSatellites <|> indication.usedSatellites).getD []

theorem usedIds?_getD (indication : PositionIndication) :
    indication.usedIds?.getD [] = indication.listedIds := by
  unfold usedIds? listedIds
  rcases indication.expandedUsedSatellites <|> indication.usedSatellites with - | - | - <;> rfl

theorem length_usage (indication : PositionIndication) :
    indication.usage.length = indication.listedIds.length := by
  unfold usage
  rw [List.length_map, List.length_zipIdx, usedIds?_getD]

theorem usage_getElem? (indication : PositionIndication) (index : Nat) :
    indication.usage[index]? = indication.listedIds[index]?.map fun id =>
      .ofId id (indication.usedSignals.bind (·[index]?)) := by
  unfold usage
  rw [List.getElem?_map, List.getElem?_zipIdx, usedIds?_getD, Option.map_map, Nat.zero_add]
  rfl

end PositionIndication

namespace UsedSatellites

open Constellation

/-- The masks hold exactly the numbers marked, whatever their order and however often they are
listed, and the count is the count of distinct numbers within the ranges. Of any masks, the count
takes the places within the ranges only, so it never saturates. The usage entries go by the list,
each with the constellation that its number is marked in. -/
theorem markAll_exact (ids : List UInt16) :
    (∀ entry ∈ numbered, ∀ place,
      ((markAll ids).mask entry.1).toNat.testBit place = true ↔
        entry.2.first.toNat + place ≤ entry.2.last.toNat ∧
          ∃ id ∈ ids, id.toNat = entry.2.first.toNat + place) ∧
      (∀ other : List UInt16, (∀ id, id ∈ other ↔ id ∈ ids) → markAll other = markAll ids) ∧
      (∀ used id, (∀ entry ∈ numbered, entry.2.contains id = false) →
        mark used id = (used, none)) ∧
      (markAll ids).count.toNat =
        (ids.toFinset.filter fun id => ∃ entry ∈ numbered, entry.2.contains id = true).card ∧
      (∀ used : UsedSatellites,
        used.count.toNat = (numbered.map fun entry => ((Finset.range entry.2.size).filter
            fun place => (used.mask entry.1).toNat.testBit place = true).card).sum ∧
          used.count.toNat ≤ 142) ∧
      ∀ indication : PositionIndication, indication.listedIds = ids →
        indication.usage.length = ids.length ∧
          ∀ index id, ids[index]? = some id → ∃ entry, indication.usage[index]? = some entry ∧
            entry.satelliteId = id ∧ entry.constellation =
              ((markAll (ids.take index)).mark id).2.getD .unknown := by
  refine ⟨?places, fun other => markAll_congr, fun used id => used.mark_of_outside,
    count_markAll ids, ?counted, ?usage⟩
  case places =>
    intro entry hentry place
    rw [markAll_testBit ids hentry]
    constructor
    · rintro ⟨id, hid, hcontains, hplace⟩
      rw [PrnRange.contains_iff] at hcontains
      exact ⟨by omega, id, hid, hplace⟩
    · rintro ⟨hlast, id, hid, hplace⟩
      refine ⟨id, hid, (PrnRange.contains_iff ..).mpr ?_, hplace⟩
      omega
  case counted =>
    intro used
    rw [count_toNat]
    refine ⟨?_, used.sum_countBelow_le⟩
    simp only [countBelow_eq_card]
  case usage =>
    rintro indication rfl
    refine ⟨indication.length_usage, fun index id hid => ?_⟩
    refine ⟨.ofId id (indication.usedSignals.bind (·[index]?)), ?_, rfl, ?_⟩
    · rw [indication.usage_getElem?, hid]
      rfl
    · rw [mark_constellation]
      rfl

end UsedSatellites

end GnssAdapter
