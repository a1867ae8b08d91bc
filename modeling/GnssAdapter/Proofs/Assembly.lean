import GnssAdapter.Proofs.Course
import GnssAdapter.Proofs.Starting
import Mathlib.Data.List.Induction

/-!
How raw sets are assembled. Whatever fragments are lost, repeated or out of order, a set holds what
has been delivered since some point of the run: within one session, with one frame count, and since
the last first fragment. What has been handed on is not kept.
-/

namespace GnssAdapter

/-! ### Fragments that go together -/

namespace MeasurementFragment

/-- A fragment of an unknown system adds nothing to a set. -/
def isKnown (fragment : MeasurementFragment) : Bool :=
  fragment.system ≠ .unknown

/-- The set that some fragments make up, in their order. -/
def assemble (isNhz : Bool) (fragments : List MeasurementFragment) : RawSet :=
  (fragments.filter isKnown).foldl RawSet.merge { isNhz }

/-- The fragments may belong to one epoch: they have one frame count, and none but the first of them
is a first fragment. -/
structure Together (frameCount : UInt32) (fragments : List MeasurementFragment) : Prop where
  hframe : ∀ fragment ∈ fragments, fragment.frame = frameCount
  hfirst : ∀ fragment ∈ fragments.tail, fragment.sequenceNumber ≠ 1

end MeasurementFragment

namespace RawSet

open MeasurementFragment

theorem foldl_merge_measurements (fragments : List MeasurementFragment) (set : RawSet)
    (hroom : set.measurements.length ≤ capacity) :
    (fragments.foldl merge set).measurements =
      (set.measurements ++ fragments.flatMap entries).take capacity := by
  induction fragments generalizing set with
  | nil =>
      rw [List.flatMap_nil, List.append_nil, List.take_of_length_le hroom]
      rfl
  | cons fragment rest ih =>
      rw [List.foldl_cons, ih (set.merge fragment) (List.length_take_le ..), List.flatMap_cons,
        ← List.append_assoc]
      exact take_append_take ..

/-- Only so many entries fit in, and the first ones do. -/
theorem assemble_measurements (isNhz : Bool) (fragments : List MeasurementFragment) :
    (assemble isNhz fragments).measurements =
      ((fragments.filter isKnown).flatMap entries).take capacity := by
  unfold assemble
  rw [foldl_merge_measurements _ _ (Nat.zero_le _)]
  rfl

/-- An entry is a usable measurement of its fragment. -/
theorem exists_of_mem_entries {fragment : MeasurementFragment} {entry : RawMeasurement}
    (hmem : entry ∈ entries fragment) :
    ∃ native ∈ fragment.measurements.getD [], ∃ uncertainty,
      entry = native.raw fragment uncertainty ∧ native.satelliteId ≠ 0 ∧
        native.status.has .freshMeas = true := by
  unfold entries at hmem
  obtain ⟨⟨native, index⟩, hnative, hentry⟩ := List.mem_filterMap.mp hmem
  dsimp only at hentry
  split at hentry
  · rename_i husable
    cases hentry
    rw [FragmentMeasurement.isUsable, Bool.and_eq_true, bne_iff_ne] at husable
    exact ⟨native, (List.mem_zipIdx' hnative).2 ▸ List.getElem_mem _, _, rfl, husable⟩
  · cases hentry

end RawSet

namespace RawBuffer

open MeasurementFragment

/-- The buffer holds what some fragments of one epoch make up. -/
structure Holds (buffer : RawBuffer) (fragments : List MeasurementFragment) : Prop where
  htogether : Together buffer.frameCount fragments
  hset : ∃ isNhz, buffer.set = assemble isNhz fragments

theorem Holds.of_empty {buffer : RawBuffer} (hempty : buffer.set = {}) : buffer.Holds [] where
  htogether := ⟨by simp, by simp⟩
  hset := ⟨false, hempty⟩

theorem Holds.of_restart {buffer : RawBuffer} {fragment : MeasurementFragment}
    (hrestarts : fragment.sequenceNumber = 1 ∨ fragment.frame ≠ buffer.frameCount) :
    (buffer.prepare fragment).frameCount = fragment.frame ∧ (buffer.prepare fragment).Holds [] := by
  unfold prepare
  rw [if_pos hrestarts]
  exact ⟨rfl, ⟨by simp, by simp⟩, _, rfl⟩

/-- A fragment goes together with those held, or makes a new beginning. -/
theorem Holds.prepare {buffer : RawBuffer} {fragments : List MeasurementFragment}
    (hholds : buffer.Holds fragments) (fragment : MeasurementFragment) :
    ∃ kept, (kept = fragments ∨ kept = []) ∧ (buffer.prepare fragment).Holds kept ∧
      Together (buffer.prepare fragment).frameCount (kept ++ [fragment]) := by
  by_cases hrestarts : fragment.sequenceNumber = 1 ∨ fragment.frame ≠ buffer.frameCount
  · obtain ⟨hframe, hempty⟩ := Holds.of_restart hrestarts
    exact ⟨[], .inr rfl, hempty, by simp [hframe], by simp⟩
  · obtain ⟨hnext, hsame⟩ := not_or.mp hrestarts
    have hkept : buffer.prepare fragment = buffer := if_neg hrestarts
    rw [hkept]
    refine ⟨fragments, .inl rfl, hholds, ?_, ?_⟩
    · intro other hmem
      rcases List.mem_append.mp hmem with hearlier | hlast
      · exact hholds.htogether.hframe other hearlier
      · rw [List.mem_singleton.mp hlast]
        exact Decidable.not_not.mp hsame
    · intro other hmem
      rcases fragments with _ | ⟨first, rest⟩
      · cases hmem
      · rcases List.mem_append.mp hmem with hearlier | hlast
        · exact hholds.htogether.hfirst other hearlier
        · rw [List.mem_singleton.mp hlast]
          exact hnext

/-- What is held after a fragment, or handed on with it, is what some of the fragments held before
make up together with it. What is handed on is not held any longer. -/
theorem Holds.add {buffer : RawBuffer} {fragments : List MeasurementFragment}
    (hholds : buffer.Holds fragments) (fragment : MeasurementFragment) :
    ∃ kept, (kept = fragments ∨ kept = []) ∧
      ((buffer.add fragment).2 = none ∧ (buffer.add fragment).1.Holds (kept ++ [fragment]) ∨
        ∃ merged : RawBuffer, merged.Holds (kept ++ [fragment]) ∧
          (buffer.add fragment).2 = some merged.set ∧ (buffer.add fragment).1.set = {}) := by
  obtain ⟨kept, hkept, ⟨-, isNhz, hset⟩, htogether⟩ := hholds.prepare fragment
  refine ⟨kept, hkept, ?_⟩
  unfold RawBuffer.add
  generalize buffer.prepare fragment = prepared at hset htogether ⊢
  dsimp only
  by_cases hunknown : fragment.system = .unknown
  · rw [if_pos hunknown]
    refine .inl ⟨rfl, htogether, isNhz, ?_⟩
    rw [hset]
    simp [assemble, isKnown, hunknown]
  · have hmerged : (prepared.set.merge fragment) = assemble isNhz (kept ++ [fragment]) := by
      rw [hset]
      simp [assemble, isKnown, hunknown, List.filter_append]
    rw [if_neg hunknown]
    by_cases hlast : fragment.isLast = true
    · rw [if_pos hlast]
      exact .inr ⟨{ prepared with set := prepared.set.merge fragment },
        ⟨htogether, isNhz, hmerged⟩, rfl, rfl⟩
    · rw [if_neg hlast]
      exact .inl ⟨rfl, htogether, isNhz, hmerged⟩

end RawBuffer

/-! ### What an action makes of the raw set -/

def Entry.rawSet? : Entry → Option RawSet
  | .notified (.rawSet set) => some set
  | _ => none

theorem Entry.rawSet?_of_not_handsOn (entry : Entry) (hsilent : entry.handsOn = false) :
    entry.rawSet? = none := by
  cases entry with
  | notified callback =>
      cases callback with
      | rawSet set => cases hsilent
      | _ => rfl
  | _ => rfl

theorem Standing.collectEntries_rawSet? (standing : Standing) (fragment : MeasurementFragment)
    (timestamp : ApTimestamp) :
    (standing.collectEntries fragment timestamp).filterMap Entry.rawSet? =
      ((standing.finishedSet? fragment).map (RawSet.stamp · timestamp)).toList := by
  unfold collectEntries
  rw [List.filterMap_append, List.filterMap_append]
  cases (standing.epochStep fragment).finished <;> cases standing.finishedSet? fragment <;> rfl

namespace Adapter

open AdapterM Standing MeasurementFragment

variable {σ : Type} [Environment σ] {adapter : Adapter σ} {action : AdapterAction}
  {after : Standing}

/-- The raw sets that the adapter hands on with an action. -/
def setsHanded (adapter : Adapter σ) (action : AdapterAction) : List RawSet :=
  (gained adapter.history (adapter.act action).history).filterMap Entry.rawSet?

/-- The action ends the session, and the raw set with it. -/
def DropsRaw (adapter : Adapter σ) (action : AdapterAction) : Prop :=
  action = .execute .stopFix ∨ adapter.Severs action

theorem DropsRaw.fragment?_eq (hdrops : adapter.DropsRaw action) : action.fragment? = none := by
  rcases hdrops with rfl | hsevers
  · rfl
  · exact hsevers.fragment?_eq

theorem setsHanded_of_other (hother : action.fragment? = none) : adapter.setsHanded action = [] :=
  filterMap_gained_of_other Entry.rawSet?_of_not_handsOn hother

theorem Course.raw_of_drops (hcourse : adapter.Course action after)
    (hdrops : adapter.DropsRaw action) : after.state.raw = {} := by
  cases hcourse with
  | retain _ hgoes hlasts => exact absurd hdrops (not_or.mpr ⟨hgoes, hlasts⟩)
  | «open» _ _ hlasts => exact absurd hdrops (not_or.mpr ⟨by simp, hlasts⟩)
  | sever _ hstate =>
      rw [hstate]
      rfl
  | stopFix => rfl
  | keepTypes | sendTypes | collect => rcases hdrops with hgoes | ⟨⟨⟩⟩; cases hgoes

theorem Course.raw_of_keeps (hcourse : adapter.Course action after)
    (hother : action.fragment? = none) (hkeeps : ¬adapter.DropsRaw action) :
    after.state.raw = adapter.state.raw := by
  cases hcourse with
  | retain _ _ _ hretains => exact congrArg (·.2.1) hretains.hcollected
  | «open» _ _ _ hretains => exact congrArg (·.2.1) hretains.hcollected
  | sever hsevers => exact absurd (.inr hsevers) hkeeps
  | stopFix => exact absurd (.inl rfl) hkeeps
  | keepTypes => rfl
  | sendTypes _ answer accepted => exact (sendTypes_epochs _ _ answer accepted).1
  | collect => cases hother

/-- Within a session a fragment is merged, and what is finished with it is handed on. -/
theorem raw_of_fragment {fragment : MeasurementFragment}
    (hfragment : action.fragment? = some fragment) (adapter : Adapter σ) :
    (adapter.act action).state.raw =
        (if adapter.state.inSession then (adapter.state.raw.add fragment).1
          else adapter.state.raw) ∧
      ∃ timestamp, adapter.setsHanded action =
        ((adapter.standing.finishedSet? fragment).map (RawSet.stamp · timestamp)).toList := by
  obtain ⟨timestamp, hcollected, hgained⟩ := adapter.gained_of_fragment hfragment
  rw [collect_eq] at hcollected
  refine ⟨congrArg (·.state.raw) hcollected, timestamp, ?_⟩
  unfold setsHanded
  rw [hgained, collectEntries_rawSet?]

/-! ### Sessions -/

theorem inSession_of_keeps (hsession : adapter.state.inSession = true)
    (hkeeps : ¬adapter.DropsRaw action) : (adapter.act action).state.inSession = true := by
  rw [act_inSession, hsession]
  unfold AdapterAction.marksSession
  split
  · rfl
  · exact absurd (.inl rfl) hkeeps
  · exact absurd (.inr .close) hkeeps
  · exact absurd (.inr .lose) hkeeps
  · rename_i events
    change (true && (CommandResult.ofClient ((openConnection events).run adapter).1).isOk) = true
    cases hresult : ((openConnection events).run adapter).1 with
    | ok => rfl
    | error error => exact absurd (.inr (.refuse events error hresult)) hkeeps
  · rfl

/-! ### Where a set comes from -/

/-- The raw set is not dropped, and fragments arrive within a session. -/
structure Steady (adapter : Adapter σ) (action : AdapterAction) : Prop where
  hkeeps : ¬adapter.DropsRaw action
  hsession : action.fragment?.isSome = true → adapter.state.inSession = true

theorem Steady.of_fragment {fragment : MeasurementFragment}
    (hfragment : action.fragment? = some fragment) (hsession : adapter.state.inSession = true) :
    adapter.Steady action where
  hkeeps hdrops := nomatch hdrops.fragment?_eq.symm.trans hfragment
  hsession _ := hsession

/-- After the actions before, the raw set has been gathered from what those of the window have
delivered. They have handed on no set. -/
structure Gathers (start : Adapter σ) (before window : List AdapterAction) : Prop where
  hsteady : (start.run before).Throughout Steady window
  hsilent : (start.run before).Throughout (fun adapter action => adapter.setsHanded action = [])
    window
  hholds : (start.run (before ++ window)).state.raw.Holds (delivered window)
  hidle : (start.run (before ++ window)).state.inSession = false →
    (start.run (before ++ window)).state.raw.set = {}

namespace Gathers

variable {start : Adapter σ} {before window : List AdapterAction}

theorem of_empty {actions : List AdapterAction}
    (hempty : (start.run actions).state.raw.set = {}) : start.Gathers actions [] := by
  refine ⟨trivial, trivial, ?_, ?_⟩
  · rw [List.append_nil]
    exact .of_empty hempty
  · rw [List.append_nil]
    exact fun _ => hempty

/-- The window may be kept, or begin anew. -/
theorem narrow (hgathers : start.Gathers before window) {kept : List MeasurementFragment}
    (hkept : kept = delivered window ∨ kept = []) :
    ∃ earlier later, earlier ++ later = before ++ window ∧ delivered later = kept ∧
      (start.run earlier).Throughout Steady later ∧
      (start.run earlier).Throughout (fun adapter action => adapter.setsHanded action = [])
        later := by
  rcases hkept with rfl | rfl
  · exact ⟨before, window, rfl, rfl, hgathers.hsteady, hgathers.hsilent⟩
  · exact ⟨before ++ window, [], List.append_nil _, rfl, trivial, trivial⟩

theorem grow {earlier later actions : List AdapterAction} {action : AdapterAction}
    (hsplit : earlier ++ later = actions) (hsteady : (start.run earlier).Throughout Steady later)
    (hsilent : (start.run earlier).Throughout (fun adapter action => adapter.setsHanded action = [])
      later)
    (hlasts : (start.run actions).Steady action)
    (hnothing : (start.run actions).setsHanded action = [])
    (hholds : ((start.run actions).act action).state.raw.Holds (delivered (later ++ [action])))
    (hidle : ((start.run actions).act action).state.inSession = false →
      ((start.run actions).act action).state.raw.set = {}) :
    start.Gathers earlier (later ++ [action]) := by
  subst hsplit
  refine ⟨throughout_concat.mpr ⟨hsteady, ?_⟩, throughout_concat.mpr ⟨hsilent, ?_⟩, ?_, ?_⟩
  · rwa [← run_append]
  · rwa [← run_append]
  · rwa [← List.append_assoc, run_concat]
  · rwa [← List.append_assoc, run_concat]

/-- Where nothing is held any longer, the window may be left behind. -/
theorem leave {action : AdapterAction} {actions : List AdapterAction}
    (hempty : ((start.run actions).act action).state.raw.set = {}) :
    ∃ earlier later, earlier ++ later = actions ++ [action] ∧ start.Gathers earlier later := by
  refine ⟨actions ++ [action], [], List.append_nil _, .of_empty ?_⟩
  rwa [run_concat]

theorem act_of_other (hgathers : start.Gathers before window) {action : AdapterAction}
    (hother : action.fragment? = none) :
    ∃ earlier later, earlier ++ later = before ++ window ++ [action] ∧
      start.Gathers earlier later := by
  have hcourse := (start.run (before ++ window)).act_course action
  by_cases hdrops : (start.run (before ++ window)).DropsRaw action
  · exact leave (congrArg RawBuffer.set (hcourse.raw_of_drops hdrops))
  · have hraw : ((start.run (before ++ window)).act action).state.raw = _ :=
      hcourse.raw_of_keeps hother hdrops
    refine ⟨before, window ++ [action], (List.append_assoc ..).symm,
      grow rfl hgathers.hsteady hgathers.hsilent ⟨hdrops, ?_⟩ (setsHanded_of_other hother) ?_
        fun hstopped => ?_⟩
    · rw [hother]
      exact nofun
    · rw [hraw, delivered_append, delivered_singleton, hother, Option.toList_none,
        List.append_nil]
      exact hgathers.hholds
    · rw [hraw]
      refine hgathers.hidle (Bool.eq_false_iff.mpr fun hsession => ?_)
      exact Bool.eq_false_iff.mp hstopped (inSession_of_keeps hsession hdrops)

theorem act_of_fragment (hgathers : start.Gathers before window) {action : AdapterAction}
    {fragment : MeasurementFragment} (hfragment : action.fragment? = some fragment) :
    ∃ earlier later, earlier ++ later = before ++ window ++ [action] ∧
      start.Gathers earlier later := by
  obtain ⟨hraw, timestamp, hhanded⟩ :=
    raw_of_fragment hfragment (start.run (before ++ window))
  by_cases hsession : (start.run (before ++ window)).state.inSession = true
  · have hsteady := Steady.of_fragment hfragment hsession
    unfold finishedSet? at hhanded
    rw [standing_state, if_pos hsession] at hhanded
    rw [if_pos hsession] at hraw
    obtain ⟨kept, hkept, ⟨hnone, hholds⟩ | ⟨merged, -, -, hset⟩⟩ := hgathers.hholds.add fragment
    · obtain ⟨earlier, later, hsplit, hlater, hbefore, hsilent⟩ := hgathers.narrow hkept
      refine ⟨earlier, later ++ [action], by rw [← hsplit, List.append_assoc],
        grow hsplit hbefore hsilent hsteady ?_ ?_ fun hstopped => ?_⟩
      · rw [hhanded, hnone]
        rfl
      · rw [hraw, delivered_append, delivered_singleton, hfragment, hlater]
        exact hholds
      · exact absurd (inSession_of_keeps hsession hsteady.hkeeps) (Bool.eq_false_iff.mp hstopped)
    · exact leave (by rw [hraw, hset])
  · -- Nothing is held without a session, and the fragment does not change that.
    rw [if_neg hsession] at hraw
    exact leave (by rw [hraw, hgathers.hidle (Bool.not_eq_true _ ▸ hsession)])

/-- With each action the window grows, begins anew, or is left behind. -/
theorem act (hgathers : start.Gathers before window) (action : AdapterAction) :
    ∃ earlier later, earlier ++ later = before ++ window ++ [action] ∧
      start.Gathers earlier later := by
  cases hfragment : action.fragment? with
  | none => exact hgathers.act_of_other hfragment
  | some fragment => exact hgathers.act_of_fragment hfragment

/-- A set that is handed on has been gathered in a window that ends with the action. -/
theorem handed (hgathers : start.Gathers before window) {action : AdapterAction} {set : RawSet}
    (hmem : set ∈ (start.run (before ++ window)).setsHanded action) :
    (start.run (before ++ window)).setsHanded action = [set] ∧ action.fragment?.isSome = true ∧
      ∃ earlier later, earlier ++ later = before ++ window ∧
        (start.run earlier).Throughout Steady (later ++ [action]) ∧
        (start.run earlier).Throughout (fun adapter action => adapter.setsHanded action = [])
          later ∧
        ∃ merged : RawBuffer, merged.Holds (delivered (later ++ [action])) ∧
          ∃ timestamp, set = merged.set.stamp timestamp := by
  cases hfragment : action.fragment? with
  | none =>
      rw [setsHanded_of_other hfragment] at hmem
      cases hmem
  | some fragment =>
      obtain ⟨-, timestamp, hhanded⟩ :=
        raw_of_fragment hfragment (start.run (before ++ window))
      rw [hhanded, Option.mem_toList, Option.map_eq_some_iff] at hmem
      obtain ⟨finished, hfinished, rfl⟩ := hmem
      rw [hfinished] at hhanded
      refine ⟨hhanded, rfl, ?_⟩
      unfold finishedSet? at hfinished
      split at hfinished
      · rename_i hsession
        obtain ⟨kept, hkept, ⟨hnone, -⟩ | ⟨merged, hholds, hsome, -⟩⟩ :=
          hgathers.hholds.add fragment
        · cases hnone.symm.trans hfinished
        · obtain ⟨earlier, later, hsplit, hlater, hsteady, hsilent⟩ := hgathers.narrow hkept
          have hlast : (start.run (before ++ window)).Steady action :=
            .of_fragment hfragment hsession
          rw [← hsplit, run_append] at hlast
          refine ⟨earlier, later, hsplit, throughout_concat.mpr ⟨hsteady, hlast⟩, hsilent,
            merged, ?_, timestamp, ?_⟩
          · rw [delivered_append, delivered_singleton, hlater, hfragment]
            exact hholds
          · rw [Option.some.inj (hsome.symm.trans hfinished)]
      · cases hfinished

end Gathers

theorem exists_gathers {start : Adapter σ} (hfresh : start.state.raw.set = {})
    (actions : List AdapterAction) :
    ∃ before window, before ++ window = actions ∧ start.Gathers before window := by
  induction actions using List.reverseRecOn with
  | nil => exact ⟨[], [], rfl, .of_empty hfresh⟩
  | append_singleton actions action ih =>
      obtain ⟨before, window, rfl, hgathers⟩ := ih
      exact hgathers.act action

/-- What has been handed on since the start has been handed on before a window without sets. -/
theorem prefix_of_handed {start : Adapter σ} {before window first rest : List AdapterAction}
    {other : AdapterAction}
    (hsilent : (start.run before).Throughout (fun adapter action => adapter.setsHanded action = [])
      window)
    (hsplit : before ++ window = first ++ other :: rest)
    (hhanded : (start.run first).setsHanded other ≠ []) : first ++ [other] <+: before := by
  rcases List.append_eq_append_iff.mp hsplit with
    ⟨middle, rfl, rfl⟩ | ⟨_ | ⟨next, middle⟩, rfl, hrest⟩
  · have hnone := (throughout_append.mp hsilent).2.1
    rw [← run_append] at hnone
    exact absurd hnone hhanded
  · rw [List.nil_append] at hrest
    rw [← hrest, List.append_nil] at hsilent
    exact absurd hsilent.1 hhanded
  · cases hrest
    exact ⟨middle, List.append_assoc ..⟩

/-- A raw set is handed on with a fragment that arrives within a session. It is put together from
the fragments that have arrived since some point of the run: since then the session has neither been
stopped nor severed, and no other set has been handed on. The fragments have one frame count, and
none but the first of them is a first fragment. The set has room for 128 entries, which come from the
fragments in their order, and each is a fresh measurement of a satellite that is named. -/
theorem setsHanded_assembled (config : Config) (surroundings : σ) (shared : Shared)
    (actions : List AdapterAction) (action : AdapterAction) (set : RawSet)
    (hmem : set ∈ ((Adapter.spawn config surroundings shared).run actions).setsHanded action) :
    let start := Adapter.spawn config surroundings shared
    ∃ before window, before ++ window = actions ∧
      let fragments := delivered (window ++ [action])
      (start.run actions).setsHanded action = [set] ∧ action.fragment?.isSome = true ∧
        (start.run before).Throughout Steady (window ++ [action]) ∧
        (∃ frameCount, Together frameCount fragments) ∧
        (∃ isNhz timestamp, set = (assemble isNhz fragments).stamp timestamp) ∧
        set.measurements.length ≤ 128 ∧
        set.measurements = ((fragments.filter isKnown).flatMap RawSet.entries).take 128 ∧
        (∀ entry ∈ set.measurements, ∃ fragment ∈ fragments,
          ∃ native ∈ fragment.measurements.getD [], ∃ uncertainty,
            entry = native.raw fragment uncertainty ∧ native.satelliteId ≠ 0 ∧
              native.status.has .freshMeas = true) ∧
        ∀ first other rest, actions = first ++ other :: rest →
          (start.run first).setsHanded other ≠ [] → first ++ [other] <+: before := by
  intro start
  have hfresh : start.state.raw.set = {} := rfl
  obtain ⟨before, window, rfl, hgathers⟩ := exists_gathers hfresh actions
  obtain ⟨hhanded, harrived, earlier, later, hsplit, hsteady, hsilent, merged,
    ⟨htogether, isNhz, hset⟩, timestamp, rfl⟩ := hgathers.handed hmem
  have hmeasurements : (merged.set.stamp timestamp).measurements =
      (((delivered (later ++ [action])).filter isKnown).flatMap RawSet.entries).take 128 := by
    rw [hset]
    exact RawSet.assemble_measurements ..
  refine ⟨earlier, later, hsplit, hhanded, harrived, hsteady, ⟨_, htogether⟩,
    ⟨isNhz, timestamp, by rw [hset]⟩, ?_, hmeasurements, fun entry hentry => ?_,
    fun first other rest hother hearlier => ?_⟩
  · rw [hmeasurements]
    exact List.length_take_le ..
  · rw [hmeasurements] at hentry
    obtain ⟨source, hsource, hentry⟩ := List.mem_flatMap.mp (List.mem_of_mem_take hentry)
    exact ⟨source, (List.mem_filter.mp hsource).1, RawSet.exists_of_mem_entries hentry⟩
  · exact prefix_of_handed hsilent (hsplit.trans hother) hearlier

/-- The first fragment of a sequence of three is repeated and the second one is lost: what is handed
on comes from the repeated fragment and the last one. -/
theorem setsHanded_assembled_of_repeated :
    let deliver (number satellite) : AdapterAction :=
      .handle (.indication (.measurement (.ofSatellite number 3 satellite)))
    let actions : List AdapterAction :=
      [.execute (.connect (.single .niRequest)), .execute (.startFix {}), deliver 1 5, deliver 1 6]
    ∃ set, (obligedAfter actions).setsHanded (deliver 3 7) = [set] ∧
      set.measurements.map (·.satelliteId) = [6, 7] ∧
      ∃ before window, before ++ window = actions ∧
        (∃ frameCount, Together frameCount (delivered (window ++ [deliver 3 7]))) ∧
        set.measurements =
          (((delivered (window ++ [deliver 3 7])).filter isKnown).flatMap RawSet.entries).take
            128 := by
  intro deliver actions
  obtain ⟨set, hset, hsatellites⟩ : ∃ set, (obligedAfter actions).setsHanded (deliver 3 7) = [set] ∧
      set.measurements.map (·.satelliteId) = [6, 7] := ⟨_, rfl, rfl⟩
  have hmem : set ∈ (obligedAfter actions).setsHanded (deliver 3 7) := by
    rw [hset]
    exact .head _
  obtain ⟨before, window, hsplit, -, -, -, htogether, -, -, hmeasurements, -, -⟩ :=
    setsHanded_assembled _ _ _ actions (deliver 3 7) set hmem
  exact ⟨set, hset, hsatellites, before, window, hsplit, htogether, hmeasurements⟩

end Adapter

end GnssAdapter
