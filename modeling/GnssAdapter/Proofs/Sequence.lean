import GnssAdapter.Proofs.EpochSequence
import GnssAdapter.Proofs.RawSequence
import Mathlib.Data.List.Forall2

/-!
Complete sequences of fragments. Two accumulators are fed with the same fragments and neither knows
of the other. A sequence that is complete takes both of them from whatever was left in them to one
set and one epoch: while it arrives, each holds what its fragments have brought so far, and its last
fragment finishes both. What they report is the same as far as they read the same lists.
-/

namespace GnssAdapter

namespace MeasurementFragment

/-- All fragments of an epoch, from the first one to the last, with one of GPS among them. -/
structure Complete (fragments : List MeasurementFragment) : Prop where
  hfirst : ∃ first, fragments.head? = some first ∧ first.sequenceNumber = 1
  hnext : ∀ fragment ∈ fragments.tail, fragment.sequenceNumber ≠ 1
  hbefore : ∀ fragment ∈ fragments.dropLast, fragment.sequenceNumber < fragment.sequenceLength
  hlast : ∀ fragment ∈ fragments.getLast?, fragment.sequenceNumber = fragment.sequenceLength
  hframe : ∃ frameCount, ∀ fragment ∈ fragments, fragment.frame = frameCount
  hknown : ∀ fragment ∈ fragments, fragment.system ≠ .unknown
  hclocked : ∃ fragment ∈ fragments, fragment.system = .gps

namespace Complete

variable {fragments : List MeasurementFragment}

theorem whole (hcomplete : Complete fragments) : Whole fragments where
  hfirst := hcomplete.hfirst
  hnext := hcomplete.hnext
  hbefore fragment hmem := Bool.eq_false_iff.mpr fun hends =>
    absurd (isLast_iff.mp hends) (UInt8.ne_of_lt (hcomplete.hbefore fragment hmem))
  hlast fragment hfragment := isLast_iff.mpr (hcomplete.hlast fragment hfragment)

theorem split (hcomplete : Complete fragments) :
    ∃ before last, fragments = before ++ [last] := by
  obtain ⟨first, hhead, -⟩ := hcomplete.hfirst
  have hsome : fragments ≠ [] := by
    rintro rfl
    cases hhead
  exact ⟨_, _, (List.dropLast_concat_getLast hsome).symm⟩

theorem uniform (hcomplete : Complete fragments) :
    ∃ frameCount, Uniform frameCount fragments := by
  obtain ⟨frameCount, hframe⟩ := hcomplete.hframe
  exact ⟨frameCount, fun fragment hmem => ⟨hframe fragment hmem, hcomplete.hknown fragment hmem⟩⟩

theorem within (hcomplete : Complete fragments) :
    ∀ fragment ∈ fragments, ¬fragment.sequenceLength < fragment.sequenceNumber := by
  obtain ⟨before, last, rfl⟩ := hcomplete.split
  have hbefore := hcomplete.hbefore
  rw [List.dropLast_concat] at hbefore
  intro fragment hmem
  rcases List.mem_append.mp hmem with hearlier | hend
  · exact UInt8.lt_asymm (hbefore fragment hearlier)
  · rw [List.mem_singleton.mp hend, hcomplete.hlast last List.getLast?_concat]
    exact UInt8.lt_irrefl _

end Complete

/-! ### The lists of a sequence -/

/-- A raw entry is about a satellite of a fragment. -/
def Describes (entry : RawMeasurement) (source : MeasurementFragment × FragmentMeasurement) :
    Prop :=
  ∃ uncertainty, entry = source.2.raw source.1 uncertainty

theorem length_flatMap_listed_le (fragments : List MeasurementFragment) :
    (fragments.flatMap listed).length ≤ (fragments.flatMap observed).length := by
  induction fragments with
  | nil => exact Nat.le_refl _
  | cons fragment rest ih =>
      simp only [List.flatMap_cons, List.length_append, observed]
      omega

/-- Both lists of satellites are the same if there are as many in both. -/
theorem length_flatMap_listed_eq_iff (fragments : List MeasurementFragment) :
    (fragments.flatMap listed).length = (fragments.flatMap observed).length ↔
      ∀ fragment ∈ fragments, fragment.overflowMeasurements.getD [] = [] := by
  induction fragments with
  | nil => simp
  | cons fragment rest ih =>
      have hrest := length_flatMap_listed_le rest
      rw [List.forall_mem_cons, ← ih, ← List.length_eq_zero_iff]
      simp only [List.flatMap_cons, List.length_append, observed, List.length_map]
      omega

theorem flatMap_observed_of_listed {fragments : List MeasurementFragment}
    (hnone : ∀ fragment ∈ fragments, fragment.overflowMeasurements.getD [] = []) :
    fragments.flatMap observed = fragments.flatMap listed := by
  refine List.flatMap_congr fun fragment hmem => ?_
  unfold observed
  rw [hnone fragment hmem, List.map_nil, List.append_nil]

/-- All satellites of a fragment are usable and fresh, and its list is not empty. -/
structure Clear (fragment : MeasurementFragment) : Prop where
  hsome : fragment.measurements.getD [] ≠ []
  hnamed : ∀ source ∈ fragment.observed, source.2.satelliteId ≠ 0
  hfresh : ∀ source ∈ fragment.observed, source.2.isFresh = true

theorem Clear.fresh_eq_observed {fragment : MeasurementFragment} (hclear : fragment.Clear) :
    fragment.fresh = fragment.observed := by
  have hlisted : fragment.listed.isEmpty = false := by
    simpa [listed] using hclear.hsome
  unfold fresh
  rw [hlisted]
  exact List.filter_eq_self.mpr hclear.hfresh

/-- Usable satellites all have their entries, wherever in a list they stand. -/
theorem usable_forall₂ (fragment : MeasurementFragment) (uncertainty : Nat → Option Float32)
    {natives : List FragmentMeasurement}
    (husable : ∀ native ∈ natives, native.isUsable = true) (start : Nat) :
    List.Forall₂ Describes
      ((natives.zipIdx start).filterMap fun entry =>
        if entry.1.isUsable then some (entry.1.raw fragment (uncertainty entry.2)) else none)
      (natives.map fun native => (fragment, native)) := by
  induction natives generalizing start with
  | nil => exact .nil
  | cons native rest ih =>
      have hrest := ih (fun other hmem => husable other (.tail _ hmem)) (start + 1)
      rw [List.zipIdx_cons, List.filterMap_cons, List.map_cons]
      dsimp only
      rw [if_pos (husable native (.head _))]
      exact .cons ⟨_, rfl⟩ hrest

theorem Clear.entries_forall₂ {fragment : MeasurementFragment} (hclear : fragment.Clear) :
    List.Forall₂ Describes (RawSet.entries fragment) fragment.listed := by
  have husable : ∀ native ∈ fragment.measurements.getD [], native.isUsable = true := by
    intro native hmem
    have hsource : (fragment, native) ∈ fragment.observed :=
      List.mem_append_left _ (List.mem_map_of_mem hmem)
    have hfresh := hclear.hfresh _ hsource
    unfold FragmentMeasurement.isFresh at hfresh
    unfold FragmentMeasurement.isUsable
    rw [Bool.and_eq_true] at hfresh ⊢
    exact ⟨bne_iff_ne.mpr (hclear.hnamed _ hsource), hfresh.2⟩
  exact usable_forall₂ fragment _ husable 0

theorem flatMap_fresh_eq_observed {fragments : List MeasurementFragment}
    (hclear : ∀ fragment ∈ fragments, fragment.Clear) :
    fragments.flatMap fresh = fragments.flatMap observed :=
  List.flatMap_congr fun fragment hmem => (hclear fragment hmem).fresh_eq_observed

/-- The raw entries of clear fragments are about the satellites of their lists. -/
theorem flatMap_entries_forall₂ {fragments : List MeasurementFragment}
    (hclear : ∀ fragment ∈ fragments, fragment.Clear) :
    List.Forall₂ Describes (fragments.flatMap RawSet.entries) (fragments.flatMap listed) := by
  induction fragments with
  | nil => exact .nil
  | cons fragment rest ih =>
      rw [List.flatMap_cons, List.flatMap_cons]
      exact List.rel_append (hclear fragment (.head _)).entries_forall₂
        (ih fun other hmem => hclear other (.tail _ hmem))

end MeasurementFragment

namespace RawSet

open MeasurementFragment

/-- The set of clear fragments has one entry for each satellite of their lists. -/
theorem assemble_forall₂ {fragments : List MeasurementFragment} (isNhz : Bool)
    {frameCount : UInt32} (huniform : Uniform frameCount fragments)
    (hclear : ∀ fragment ∈ fragments, fragment.Clear)
    (hfits : (fragments.flatMap observed).length ≤ capacity) :
    List.Forall₂ Describes (assemble isNhz fragments).measurements (fragments.flatMap listed) := by
  have hentries := flatMap_entries_forall₂ hclear
  have hlisted := length_flatMap_listed_le fragments
  rw [assemble_measurements, huniform.filter_isKnown, List.take_of_length_le]
  · exact hentries
  · rw [hentries.length_eq]
    omega

end RawSet

namespace Adapter

open AdapterM Standing MeasurementFragment

variable {σ : Type} [Environment σ] {adapter : Adapter σ} {action : AdapterAction}

theorem found_epoch? (adapter : Adapter σ) (actions : List AdapterAction) :
    adapter.found Entry.epoch? actions =
      (adapter.found Entry.epochReport? actions).map Prod.fst := by
  unfold found
  rw [List.map_filterMap]
  refine congrArg (fun look => List.filterMap look _) (funext fun entry => ?_)
  cases entry with
  | notified callback => cases callback <;> rfl
  | _ => rfl

/-- In a session, a complete sequence is reported once by each accumulator, whatever has been left
in them and whatever else happens meanwhile. -/
theorem complete_reported (hsession : adapter.state.inSession = true)
    {actions : List AdapterAction}
    (hkeeps : adapter.Throughout (fun adapter action => ¬adapter.DropsRaw action) actions)
    (hcomplete : Complete (delivered actions))
    (hsome : (delivered actions).flatMap fresh ≠ []) :
    (∃ isNhz timestamp, adapter.found Entry.rawSet? actions =
        [(assemble isNhz (delivered actions)).stamp timestamp]) ∧
      ∃ epoch, adapter.found Entry.epoch? actions = [epoch] ∧
        epoch.measurements = (((delivered actions).flatMap fresh).take EpochBuffer.capacity).map
          fun source => source.2.processed source.1 := by
  obtain ⟨before, last, hsplit⟩ := hcomplete.split
  obtain ⟨opening, action, rest, rfl, rfl, hfragment, hrest⟩ := exists_of_delivered hsplit
  rw [hsplit] at hcomplete hsome ⊢
  have hopening := (throughout_append.mp hkeeps).1
  obtain ⟨frameCount, huniform⟩ := hcomplete.uniform
  obtain ⟨hnoSet, ⟨first, timestamp, -, hset⟩, -⟩ :=
    found_rawSet?_of_whole hsession hopening hfragment hcomplete.whole huniform
  obtain ⟨hnoReport, clocked, hclock, hreport⟩ := found_epochReport?_of_whole
    (hopening.imp fun _ _ hkeep hsevers => hkeep (.inr hsevers)) hfragment hcomplete.whole
    hcomplete.within
  -- The last fragment comes after all the others, and nothing but silence follows it.
  have hfound {α : Type} {look : Entry → Option α}
      (hlook : ∀ entry : Entry, entry.handsOn = false → look entry = none)
      (hnone : adapter.found look opening = []) :
      adapter.found look (opening ++ action :: rest) =
        (adapter.run opening).found look [action] := by
    rw [found_append, found_cons, found_of_silent hlook hrest, hnone, List.append_nil,
      List.nil_append]
  refine ⟨⟨_, timestamp, (hfound Entry.rawSet?_of_not_handsOn hnoSet).trans hset⟩, ?_⟩
  have hgiven : clocked.isSome = true := by
    rw [hclock.isSome_iff, delivered_concat hfragment]
    exact hcomplete.hclocked
  obtain ⟨report, hsent⟩ := Option.isSome_iff_exists.mp (report?_isSome_iff.mpr ⟨hgiven, hsome⟩)
  obtain ⟨-, -, -, hmeasurements, -⟩ := report?_eq_some hsent
  refine ⟨report.1, ?_, hmeasurements⟩
  rw [found_epoch?, hfound Entry.epochReport?_of_not_handsOn hnoReport, hreport, hsent]
  rfl

/-- In a session, a complete sequence of fragments whose satellites are all usable and fresh, and
not too many, is reported once as a raw set and once as a processed epoch. The raw entries are about
the satellites of the fragments' lists, in order, and the processed measurements about those of the
lists with their overflow. Both are about the same satellites exactly if nothing has overflown. -/
theorem reported_alike_iff (hsession : adapter.state.inSession = true)
    {actions : List AdapterAction}
    (hkeeps : adapter.Throughout (fun adapter action => ¬adapter.DropsRaw action) actions)
    (hcomplete : Complete (delivered actions))
    (hclear : ∀ fragment ∈ delivered actions, fragment.Clear)
    (htotal : ((delivered actions).flatMap observed).length ≤ 64) :
    ∃ set epoch, adapter.found Entry.rawSet? actions = [set] ∧
      adapter.found Entry.epoch? actions = [epoch] ∧
      List.Forall₂ Describes set.measurements ((delivered actions).flatMap listed) ∧
      epoch.measurements =
        ((delivered actions).flatMap observed).map (fun source => source.2.processed source.1) ∧
      ((∃ sources, List.Forall₂ Describes set.measurements sources ∧
          epoch.measurements = sources.map fun source => source.2.processed source.1) ↔
        ∀ fragment ∈ delivered actions, fragment.overflowMeasurements.getD [] = []) := by
  have hfresh := flatMap_fresh_eq_observed hclear
  have hsome : (delivered actions).flatMap fresh ≠ [] := by
    obtain ⟨before, last, hsplit⟩ := hcomplete.split
    have hmem : last ∈ delivered actions := by
      rw [hsplit]
      exact List.mem_append_right _ (.head _)
    obtain ⟨native, hnative⟩ := List.exists_mem_of_ne_nil _ (hclear last hmem).hsome
    rw [hfresh]
    have hsource : (last, native) ∈ (delivered actions).flatMap observed :=
      List.mem_flatMap.mpr ⟨last, hmem, List.mem_append_left _ (List.mem_map_of_mem hnative)⟩
    exact List.ne_nil_of_mem hsource
  obtain ⟨⟨isNhz, timestamp, hset⟩, epoch, hepoch, hmeasurements⟩ :=
    complete_reported hsession hkeeps hcomplete hsome
  obtain ⟨frameCount, huniform⟩ := hcomplete.uniform
  have hraw : List.Forall₂ Describes (assemble isNhz (delivered actions)).measurements
      ((delivered actions).flatMap listed) :=
    RawSet.assemble_forall₂ isNhz huniform hclear (Nat.le_trans htotal (by decide))
  have hprocessed : epoch.measurements = ((delivered actions).flatMap observed).map
      fun source => source.2.processed source.1 := by
    rw [hmeasurements, hfresh, List.take_of_length_le]
    exact htotal
  refine ⟨_, epoch, hset, hepoch, hraw, hprocessed, fun ⟨sources, hdescribes, hsources⟩ => ?_,
    fun hnone => ⟨_, hraw, ?_⟩⟩
  · have hlisted := hraw.length_eq.symm.trans hdescribes.length_eq
    have hobserved := congrArg List.length (hprocessed.symm.trans hsources)
    rw [List.length_map, List.length_map] at hobserved
    exact (length_flatMap_listed_eq_iff _).mp (hlisted.trans hobserved.symm)
  · rw [hprocessed, flatMap_observed_of_listed hnone]

/-- Two fragments without overflow, with an event between them. -/
theorem reported_alike_of_two :
    let actions : List AdapterAction :=
      [.handle (.indication (.measurement (.ofSatellite 1 2 5))), .handle (.error .other),
        .handle (.indication (.measurement (.ofSatellite 2 2 6)))]
    ∃ set epoch sources, startedAdapter.found Entry.rawSet? actions = [set] ∧
      startedAdapter.found Entry.epoch? actions = [epoch] ∧
      List.Forall₂ Describes set.measurements sources ∧
      epoch.measurements = sources.map fun source => source.2.processed source.1 := by
  intro actions
  have hdelivered : delivered actions = [.ofSatellite 1 2 5, .ofSatellite 2 2 6] := rfl
  have hkeeps : startedAdapter.Throughout (fun adapter action => ¬adapter.DropsRaw action)
      actions := ⟨not_dropsRaw_of_fragment rfl, not_dropsRaw_of_failure,
        not_dropsRaw_of_fragment rfl, trivial⟩
  have hcomplete : Complete (delivered actions) := by
    rw [hdelivered]
    refine ⟨⟨_, rfl, rfl⟩, ?_, ?_, ?_, ⟨0, ?_⟩, ?_, ⟨_, .head _, rfl⟩⟩ <;> decide
  have hclear : ∀ fragment ∈ delivered actions, fragment.Clear := by
    rw [hdelivered]
    intro fragment hmem
    rcases List.mem_pair.mp hmem with rfl | rfl
    · exact ⟨List.cons_ne_nil _ _, by decide, by decide⟩
    · exact ⟨List.cons_ne_nil _ _, by decide, by decide⟩
  obtain ⟨set, epoch, hset, hepoch, -, -, hiff⟩ :=
    reported_alike_iff (rfl : startedAdapter.state.inSession = true) hkeeps hcomplete hclear
      (by decide)
  obtain ⟨sources, hdescribes, hprocessed⟩ := hiff.mpr (by decide)
  exact ⟨set, epoch, sources, hset, hepoch, hdescribes, hprocessed⟩

/-- A fragment that is a sequence by itself, with one satellite in its list and one in its
overflow. -/
def overflown : MeasurementFragment :=
  { MeasurementFragment.ofSatellite 1 1 5 with
    overflowMeasurements := (MeasurementFragment.ofSatellite 1 1 6).measurements }

/-- The satellite that has overflown is in the processed epoch and not in the raw set. -/
theorem overflow_unreported :
    let actions : List AdapterAction := [.handle (.indication (.measurement overflown))]
    startedAdapter.state.inSession = true ∧ Complete (delivered actions) ∧
      (∀ fragment ∈ delivered actions, fragment.Clear) ∧
      ((delivered actions).flatMap observed).length ≤ 64 ∧
      ∃ set epoch, startedAdapter.found Entry.rawSet? actions = [set] ∧
        startedAdapter.found Entry.epoch? actions = [epoch] ∧
        set.measurements.map RawMeasurement.satelliteId = [5] ∧
        epoch.measurements.map ProcessedMeasurement.satelliteId = [5, 6] := by
  intro actions
  have hdelivered : delivered actions = [overflown] := rfl
  refine ⟨rfl, ?_, ?_, by decide, _, _, rfl, rfl, rfl, rfl⟩
  · rw [hdelivered]
    refine ⟨⟨_, rfl, rfl⟩, ?_, ?_, ?_, ⟨0, ?_⟩, ?_, ⟨_, .head _, rfl⟩⟩ <;> decide
  · rw [hdelivered]
    intro fragment hmem
    rw [List.mem_singleton.mp hmem]
    exact ⟨List.cons_ne_nil _ _, by decide, by decide⟩

end Adapter

end GnssAdapter
