import GnssAdapter.Proofs.Arrival
import GnssAdapter.Proofs.Discontinuity

/-!
Processed epochs of whole sequences. Whatever has been left in the buffer, a sequence is handed on
once, with its last fragment, if it brings measurements and a GPS fragment. The first GPS fragment
decides the clock and the time of week, unless a gain level comes with every measurement.
-/

namespace GnssAdapter

namespace MeasurementFragment

/-- The fragments of one epoch, told by their numbers and the length that they all have: the first
one, the last one, and those in between. -/
structure EpochSequence (length : UInt8) (fragments : List MeasurementFragment) : Prop where
  hlength : ∀ fragment ∈ fragments, fragment.sequenceLength = length
  hfirst : ∃ first, fragments.head? = some first ∧ first.sequenceNumber = 1
  hlast : ∃ last, fragments.getLast? = some last ∧ last.sequenceNumber = length
  hbetween : ∀ fragment ∈ fragments.tail.dropLast,
    fragment.sequenceNumber ≠ 1 ∧ fragment.sequenceNumber < length

namespace EpochSequence

variable {length : UInt8} {fragments : List MeasurementFragment}

theorem whole (hsequence : EpochSequence length fragments)
    (hlong : fragments.length = 1 ∨ 1 < length) : Whole fragments := by
  have hlasts {fragment : MeasurementFragment} (hmem : fragment ∈ fragments) :
      fragment.isLast = true ↔ fragment.sequenceNumber = length := by
    rw [isLast_iff, hsequence.hlength fragment hmem]
  refine .of_between hsequence.hfirst (fun fragment hfragment => ?_) (fun fragment hmem => ?_)
    fun fragment hmem hone hends => ?_
  · obtain ⟨last, hends, hlast⟩ := hsequence.hlast
    cases hends.symm.trans hfragment
    exact (hlasts (List.mem_of_getLast? hends)).mpr hlast
  · obtain ⟨hnext, hless⟩ := hsequence.hbetween fragment hmem
    have hinside : fragment ∈ fragments := List.mem_of_mem_tail (List.dropLast_subset _ hmem)
    exact ⟨hnext, Bool.eq_false_iff.mpr fun hends =>
      absurd ((hlasts hinside).mp hends) (UInt8.ne_of_lt hless)⟩
  · refine hlong.resolve_right fun hless => ?_
    rw [← (hlasts hmem).mp hends, hone] at hless
    exact UInt8.lt_irrefl _ hless

/-- No fragment has a number beyond the length of its sequence. -/
theorem within (hsequence : EpochSequence length fragments)
    (hlong : fragments.length = 1 ∨ 1 < length) :
    ∀ fragment ∈ fragments, ¬fragment.sequenceLength < fragment.sequenceNumber := by
  intro fragment hmem
  rw [hsequence.hlength fragment hmem]
  obtain ⟨first, hhead, hnumber⟩ := hsequence.hfirst
  obtain ⟨last, hends, hlast⟩ := hsequence.hlast
  have hbetween := hsequence.hbetween
  obtain ⟨rest, rfl⟩ : ∃ rest, fragments = first :: rest := List.head?_eq_some_iff.mp hhead
  rcases rest.eq_nil_or_concat with rfl | ⟨inner, other, rfl⟩
  · obtain rfl : first = last := Option.some.inj hends
    rw [List.mem_singleton.mp hmem, hlast]
    exact UInt8.lt_irrefl _
  · rw [List.concat_eq_append] at hmem hends hlong hbetween
    rw [← List.cons_append, List.getLast?_concat] at hends
    cases hends
    rw [List.tail_cons, List.dropLast_concat] at hbetween
    rcases List.mem_cons.mp hmem with rfl | hrest
    · rw [hnumber]
      exact UInt8.lt_asymm (hlong.resolve_left (by simp))
    · rcases List.mem_append.mp hrest with hinner | hend
      · exact UInt8.lt_asymm (hbetween fragment hinner).2
      · rw [List.mem_singleton.mp hend, hlast]
        exact UInt8.lt_irrefl _

end EpochSequence

/-- The satellites of a fragment's list, each with the fragment. -/
def listed (fragment : MeasurementFragment) :
    List (MeasurementFragment × FragmentMeasurement) :=
  (fragment.measurements.getD []).map fun native => (fragment, native)

/-- The satellites of a fragment's list and of its overflow list, each with the fragment. -/
def observed (fragment : MeasurementFragment) :
    List (MeasurementFragment × FragmentMeasurement) :=
  fragment.listed ++ (fragment.overflowMeasurements.getD []).map fun native => (fragment, native)

/-- The satellites of both lists whose measurements are fresh. The overflow list only continues a
list that is there. -/
def fresh (fragment : MeasurementFragment) : List (MeasurementFragment × FragmentMeasurement) :=
  if fragment.listed.isEmpty then []
  else fragment.observed.filter fun source => source.2.isFresh

theorem fresh_eq (fragment : MeasurementFragment) :
    fragment.fresh = match fragment.measurements.getD [] with
      | [] => []
      | primary =>
          ((primary ++ fragment.overflowMeasurements.getD []).filter
            FragmentMeasurement.isFresh).map fun native => (fragment, native) := by
  unfold fresh observed listed
  cases fragment.measurements.getD [] with
  | nil => rfl
  | cons first rest =>
      rw [← List.map_append, List.filter_map]
      rfl

theorem additions_eq {fragment : MeasurementFragment}
    (hwithin : ¬fragment.sequenceLength < fragment.sequenceNumber) :
    fragment.additions = fragment.fresh.map fun source => source.2.processed source.1 := by
  unfold additions
  rw [if_neg hwithin, fresh_eq]
  cases fragment.measurements.getD [] with
  | nil => rfl
  | cons first rest =>
      dsimp only
      rw [List.map_map]
      rfl

/-- The clock of an epoch that takes it from a GPS fragment. It hangs on what has been tracked
before, and on nothing else of the epoch. -/
def clock (fragment : MeasurementFragment) (tracker : ClockTracker)
    (newSession fullPower : Bool) : ReceiverClock :=
  let timed : ReceiverClock :=
    match fragment.reading? with
    | some (frameCount, resets) =>
        let clock : ReceiverClock :=
          { timeNs := Int64.ofNat frameCount.toNat * 1000000
            timeUncertaintyNs := 0
            discontinuities :=
              (tracker.observe frameCount resets newSession fullPower).discontinuities }
        (fragment.systemTime.map clock.setBias).getD clock
    | none => {}
  (fragment.receiverClockFrequency.map timed.setDrift).getD timed

/-- The time of week of a fragment with a reading of the clock; -1 if it has none. -/
def msInWeek (fragment : MeasurementFragment) : Int32 :=
  match fragment.reading?, fragment.systemTime with
  | some _, some time => time.msInWeek
  | _, _ => -1

/-- The clock and the time of week that a fragment gives an epoch. Only GPS fragments give any. -/
def clockAndWeek? (fragment : MeasurementFragment) (tracker : ClockTracker)
    (newSession fullPower : Bool) : Option (ReceiverClock × Int32) :=
  if fragment.system = .gps then
    some (fragment.clock tracker newSession fullPower, fragment.msInWeek)
  else none

/-- What is handed on of some measurements and a clock, if there are both. -/
def report? (clocked : Option (ReceiverClock × Int32))
    (sources : List (MeasurementFragment × FragmentMeasurement)) :
    Option (ProcessedEpoch × Int32) :=
  let kept := sources.take EpochBuffer.capacity
  if sources.isEmpty then none
  else clocked.map fun (clock, msInWeek) =>
    ({ clock, measurements := kept.map fun source => source.2.processed source.1 },
      if kept.all (·.1.jammerIndicator.isSome) then -1 else msInWeek)

section

variable {clocked : Option (ReceiverClock × Int32)}
  {sources : List (MeasurementFragment × FragmentMeasurement)}

theorem report?_isSome_iff :
    (report? clocked sources).isSome = true ↔ clocked.isSome = true ∧ sources ≠ [] := by
  unfold report?
  cases sources with
  | nil => simp
  | cons source rest => simp

theorem report?_eq_some {report : ProcessedEpoch × Int32}
    (hreport : report? clocked sources = some report) :
    let kept := sources.take EpochBuffer.capacity
    ∃ reading, clocked = some reading ∧
      report.1.clock = reading.1 ∧
      report.1.measurements = (kept.map fun source => source.2.processed source.1) ∧
      report.2 = if ∀ source ∈ kept, source.1.jammerIndicator.isSome then -1 else reading.2 := by
  intro kept
  unfold report? at hreport
  split at hreport
  · cases hreport
  · obtain ⟨reading, hreading, rfl⟩ := Option.map_eq_some_iff.mp hreport
    refine ⟨reading, hreading, rfl, rfl, ?_⟩
    exact if_congr List.all_eq_true rfl rfl

end

end MeasurementFragment

namespace EpochBuffer

open MeasurementFragment

variable {buffer : EpochBuffer} {fragment : MeasurementFragment} {tracker : ClockTracker}
  {clocked : Option (ReceiverClock × Int32)}
  {sources : List (MeasurementFragment × FragmentMeasurement)}

/-- An epoch without a clock takes it from the fragment as it is. -/
theorem setClock_eq (fragment : MeasurementFragment) (hunset : buffer.epoch.clock = {})
    (newSession fullPower : Bool) :
    ∃ tracker, buffer.setClock fragment newSession fullPower =
      { buffer with
        tracker
        clockSeen := true
        msInWeek := fragment.msInWeek
        epoch := { buffer.epoch with
          clock := fragment.clock buffer.tracker newSession fullPower } } := by
  obtain ⟨⟨clock, measurements⟩, clockSeen, msInWeek, gainPresent, tracker⟩ := buffer
  obtain rfl : clock = {} := hunset
  unfold setClock MeasurementFragment.clock MeasurementFragment.msInWeek reading?
  cases fragment.frameTime with
  | none => exact ⟨_, rfl⟩
  | some frame =>
      cases fragment.clockResets with
      | none => exact ⟨_, rfl⟩
      | some resets => cases fragment.systemTime <;> exact ⟨_, rfl⟩

/-- The flag of the gain levels is about the measurements that the epoch has room for. -/
structure Armed (buffer : EpochBuffer)
    (sources : List (MeasurementFragment × FragmentMeasurement)) : Prop where
  hlength : buffer.epoch.measurements.length = min capacity sources.length
  hgain : buffer.gainPresent = (sources.take capacity).all (·.1.jammerIndicator.isSome)

namespace Armed

theorem push_fresh (harmed : buffer.Armed sources) {native : FragmentMeasurement}
    (hfresh : native.isFresh = true) :
    (push fragment buffer native).Armed (sources ++ [(fragment, native)]) := by
  obtain ⟨hlength, hgain⟩ := harmed
  unfold push
  rw [hfresh, Bool.and_true]
  by_cases hroom : sources.length < capacity
  · have hfits : buffer.epoch.measurements.length < capacity := by omega
    rw [if_pos (decide_eq_true hfits)]
    constructor
    · simp only [List.length_append, List.length_singleton]
      omega
    · rw [List.take_of_length_le (by omega)] at hgain
      rw [List.take_of_length_le (by rw [List.length_append]; exact hroom), List.all_append,
        ← hgain]
      simp
  · have hfull : ¬buffer.epoch.measurements.length < capacity := by omega
    rw [if_neg (by simpa using hfull)]
    constructor
    · simp only [List.length_append, List.length_singleton]
      omega
    · rwa [List.take_append_of_le_length (by omega)]

theorem foldl_push (harmed : buffer.Armed sources) (natives : List FragmentMeasurement) :
    (natives.foldl (push fragment) buffer).Armed
      (sources ++ (natives.filter FragmentMeasurement.isFresh).map fun native =>
        (fragment, native)) := by
  induction natives generalizing buffer sources with
  | nil => simpa using harmed
  | cons native rest ih =>
      rw [List.foldl_cons]
      by_cases hfresh : native.isFresh = true
      · rw [List.filter_cons_of_pos hfresh, List.map_cons, List.append_cons]
        exact ih (harmed.push_fresh hfresh)
      · rw [push_of_stale hfresh, List.filter_cons_of_neg hfresh]
        exact ih harmed

end Armed

/-- The epoch has the first of some measurements, and the clock of a fragment if it has one. -/
structure Gathered (buffer : EpochBuffer) (tracker : ClockTracker)
    (clocked : Option (ReceiverClock × Int32))
    (sources : List (MeasurementFragment × FragmentMeasurement)) : Prop where
  hmeasurements : buffer.epoch.measurements =
    (sources.take capacity).map fun source => source.2.processed source.1
  hgain : sources ≠ [] →
    buffer.gainPresent = (sources.take capacity).all (·.1.jammerIndicator.isSome)
  hseen : buffer.clockSeen = clocked.isSome
  hclock : buffer.epoch.clock = (clocked.map Prod.fst).getD {}
  hms : buffer.msInWeek = (clocked.map Prod.snd).getD (-1)
  htracker : clocked = none → buffer.tracker = tracker

theorem gathered_restart (buffer : EpochBuffer) :
    buffer.restart.Gathered buffer.tracker none [] :=
  ⟨rfl, fun hnone => absurd rfl hnone, rfl, rfl, rfl, fun _ => rfl⟩

namespace Gathered

theorem length_eq (hgathered : buffer.Gathered tracker clocked sources) :
    buffer.epoch.measurements.length = min capacity sources.length := by
  rw [hgathered.hmeasurements, List.length_map, List.length_take]

/-- The first measurements find the flag of the gain levels set. -/
theorem pushAll_gain (hgathered : buffer.Gathered tracker clocked sources)
    (fragment : MeasurementFragment) (hsome : sources ++ fragment.fresh ≠ []) :
    (buffer.pushAll fragment).gainPresent =
      ((sources ++ fragment.fresh).take capacity).all (·.1.jammerIndicator.isSome) := by
  have hlength := hgathered.length_eq
  unfold pushAll
  rw [fresh_eq] at hsome ⊢
  cases hprimary : fragment.measurements.getD [] with
  | nil =>
      rw [hprimary] at hsome
      dsimp only at hsome ⊢
      rw [List.append_nil] at hsome ⊢
      exact hgathered.hgain hsome
  | cons first rest =>
      dsimp only
      -- An empty epoch sets the flag anew, so it does not matter what it was before.
      have harmed : (if buffer.epoch.measurements.isEmpty then { buffer with gainPresent := true }
          else buffer).Armed sources := by
        by_cases hempty : buffer.epoch.measurements.isEmpty = true
        · have hnone : sources = [] := by
            rw [List.isEmpty_iff_length_eq_zero, hlength] at hempty
            rw [← List.length_eq_zero_iff]
            unfold capacity at hempty
            omega
          rw [if_pos hempty]
          subst hnone
          exact ⟨hlength, rfl⟩
        · rw [if_neg hempty]
          refine ⟨hlength, hgathered.hgain ?_⟩
          rintro rfl
          exact hempty (List.isEmpty_iff_length_eq_zero.mpr hlength)
      exact (harmed.foldl_push _).hgain

theorem pushAll (hgathered : buffer.Gathered tracker clocked sources)
    (hwithin : ¬fragment.sequenceLength < fragment.sequenceNumber) :
    (buffer.pushAll fragment).Gathered tracker clocked (sources ++ fragment.fresh) := by
  have hroom : buffer.epoch.measurements.length ≤ capacity := by
    rw [hgathered.length_eq]
    exact Nat.min_le_left ..
  have hmeasurements := pushAll_measurements hwithin hroom
  rw [hgathered.hmeasurements, additions_eq hwithin, ← List.map_append, ← List.map_take,
    take_append_take] at hmeasurements
  have hgain := hgathered.pushAll_gain fragment
  obtain ⟨measurements, gainPresent, hpushed⟩ := pushAll_eq buffer fragment
  rw [hpushed] at hmeasurements hgain ⊢
  exact ⟨hmeasurements, hgain, hgathered.hseen, hgathered.hclock, hgathered.hms,
    hgathered.htracker⟩

/-- The clock is taken from the fragment as it is. -/
theorem setClock (hgathered : buffer.Gathered tracker none sources)
    (newSession fullPower : Bool) :
    (buffer.setClock fragment newSession fullPower).Gathered tracker
      (some (fragment.clock tracker newSession fullPower, fragment.msInWeek)) sources := by
  obtain ⟨after, hset⟩ := setClock_eq fragment hgathered.hclock newSession fullPower
  rw [hset, hgathered.htracker rfl]
  exact ⟨hgathered.hmeasurements, hgathered.hgain, rfl, rfl, rfl, nofun⟩

/-- A fragment is gathered after a new beginning, or after those before it. -/
theorem add (hwithin : ¬fragment.sequenceLength < fragment.sequenceNumber)
    (hgathered : (if fragment.sequenceNumber = 1 then buffer.restart else buffer).Gathered tracker
      clocked sources) (newSession fullPower : Bool) :
    (buffer.add fragment newSession fullPower).buffer.Gathered tracker
      (clocked.or (fragment.clockAndWeek? tracker newSession fullPower))
      (sources ++ fragment.fresh) := by
  have hprepared : (buffer.prepared fragment).Gathered tracker clocked
      (sources ++ fragment.fresh) := hgathered.pushAll hwithin
  rw [(add_eq hwithin newSession fullPower).2]
  unfold takesClock clockAndWeek?
  rw [hprepared.hseen]
  cases clocked with
  | some reading =>
      rw [Option.isSome_some, Bool.not_true, Bool.and_false, Option.some_or]
      exact hprepared
  | none =>
      rw [Option.none_or]
      by_cases hgps : fragment.system = .gps
      · rw [if_pos (by simp [hgps]), if_pos hgps]
        exact hprepared.setClock newSession fullPower
      · rw [if_neg (by simp [hgps]), if_neg hgps]
        exact hprepared

theorem report_eq (hgathered : buffer.Gathered tracker clocked sources) :
    (if !buffer.epoch.measurements.isEmpty && buffer.clockSeen then
      some (buffer.epoch, buffer.reportedMs) else none) = report? clocked sources := by
  have hempty : buffer.epoch.measurements.isEmpty = sources.isEmpty := by
    rw [hgathered.hmeasurements]
    cases sources <;> rfl
  unfold report?
  rw [hempty, hgathered.hseen]
  cases hsources : sources.isEmpty with
  | true => rfl
  | false =>
      have hsome : sources ≠ [] := List.isEmpty_eq_false_iff.mp hsources
      cases clocked with
      | none => rfl
      | some reading =>
          have hepoch : buffer.epoch = ⟨reading.1, _⟩ :=
            congrArg₂ ProcessedEpoch.mk hgathered.hclock hgathered.hmeasurements
          have hms : buffer.msInWeek = reading.2 := hgathered.hms
          unfold reportedMs
          rw [hepoch, hms, hgathered.hgain hsome]
          rfl

end Gathered

end EpochBuffer

/-- A processed epoch that is handed on, with its time of week. -/
def Entry.epochReport? : Entry → Option (ProcessedEpoch × Int32)
  | .notified (.processedEpoch epoch msInWeek) => some (epoch, msInWeek)
  | _ => none

theorem Entry.epochReport?_of_not_handsOn (entry : Entry) (hsilent : entry.handsOn = false) :
    entry.epochReport? = none := by
  cases entry with
  | notified callback =>
      cases callback with
      | processedEpoch epoch msInWeek => cases hsilent
      | _ => rfl
  | _ => rfl

theorem Standing.collectEntries_epochReport? (standing : Standing)
    (fragment : MeasurementFragment) (timestamp : ApTimestamp) :
    (standing.collectEntries fragment timestamp).filterMap Entry.epochReport? =
      (standing.epochStep fragment).finished.toList := by
  unfold collectEntries
  rw [List.filterMap_append, List.filterMap_append]
  cases (standing.epochStep fragment).finished <;> cases standing.finishedSet? fragment <;> rfl

namespace Adapter

open Standing MeasurementFragment

variable {σ : Type} [Environment σ] {adapter start : Adapter σ} {action : AdapterAction}
  {actions : List AdapterAction} {clocked : Option (ReceiverClock × Int32)}

/-- The clock and the time of week that an action brings for an epoch. -/
def clockAndWeek? (adapter : Adapter σ) (tracker : ClockTracker) (action : AdapterAction) :
    Option (ReceiverClock × Int32) :=
  action.fragment?.bind fun fragment =>
    fragment.clockAndWeek? tracker adapter.state.sessionFresh (adapter.state.powerMode = some .m1)

/-- The clock and the time of week of the first GPS fragment among those that some actions deliver, if
there is one. -/
inductive FirstClock (start : Adapter σ) :
    List AdapterAction → Option (ReceiverClock × Int32) → Prop
  | none {actions : List AdapterAction}
      (hnone : ∀ fragment ∈ delivered actions, fragment.system ≠ .gps) :
      FirstClock start actions none
  | some {earlier later : List AdapterAction} {arrival : AdapterAction}
      {fragment : MeasurementFragment}
      (hearlier : ∀ fragment ∈ delivered earlier, fragment.system ≠ .gps)
      (hfragment : arrival.fragment? = some fragment) (hgps : fragment.system = .gps) :
      FirstClock start (earlier ++ arrival :: later)
        (some (fragment.clock start.state.processed.tracker (start.run earlier).state.sessionFresh
          ((start.run earlier).state.powerMode = some .m1), fragment.msInWeek))

theorem FirstClock.concat (hfirst : start.FirstClock actions clocked) (action : AdapterAction) :
    start.FirstClock (actions ++ [action])
      (clocked.or ((start.run actions).clockAndWeek? start.state.processed.tracker action)) := by
  cases hfirst with
  | some hearlier hfragment hgps =>
      rw [Option.some_or, List.append_assoc]
      exact .some hearlier hfragment hgps
  | none hnone =>
      rw [Option.none_or]
      unfold clockAndWeek? MeasurementFragment.clockAndWeek?
      cases hfragment : action.fragment? with
      | none =>
          refine .none ?_
          rwa [delivered_concat_of_other hfragment]
      | some fragment =>
          rw [Option.bind_some]
          by_cases hgps : fragment.system = .gps
          · rw [if_pos hgps]
            exact .some hnone hfragment hgps
          · rw [if_neg hgps]
            refine .none ?_
            rw [delivered_concat hfragment]
            simpa [or_imp, forall_and] using ⟨hnone, hgps⟩

theorem FirstClock.isSome_iff (hfirst : start.FirstClock actions clocked) :
    clocked.isSome = true ↔ ∃ fragment ∈ delivered actions, fragment.system = .gps := by
  cases hfirst with
  | none hnone => simpa using hnone
  | some hearlier hfragment hgps =>
      refine iff_of_true rfl ⟨_, ?_, hgps⟩
      rw [delivered_append, delivered_cons, delivered_singleton, hfragment]
      simp

/-- The beginning of a sequence has arrived, and the epoch holds what it has brought. -/
structure HoldsEpoch (adapter : Adapter σ) (tracker : ClockTracker)
    (clocked : Option (ReceiverClock × Int32)) (seen : List MeasurementFragment) : Prop where
  htracker : seen = [] → adapter.state.processed.tracker = tracker ∧ clocked = none
  hgathered : seen ≠ [] →
    adapter.state.processed.Gathered tracker clocked (seen.flatMap fresh)

namespace HoldsEpoch

variable {tracker : ClockTracker} {first fragment : MeasurementFragment}
  {seen : List MeasurementFragment}

/-- What comes in between changes nothing of it. -/
theorem act_of_other (hholds : adapter.HoldsEpoch tracker clocked seen)
    (hlasts : ¬adapter.Severs action) (hother : action.fragment? = none) :
    (adapter.act action).HoldsEpoch tracker clocked seen := by
  have hprocessed : (adapter.act action).state.processed = adapter.state.processed :=
    (adapter.act_course action).processed_of_lasts hother hlasts
  refine ⟨fun hnone => ?_, fun hsome => ?_⟩
  · rw [hprocessed]
    exact hholds.htracker hnone
  · rw [hprocessed]
    exact hholds.hgathered hsome

/-- The next fragment comes on top of those before it. -/
theorem act_of_next (hholds : adapter.HoldsEpoch tracker clocked seen)
    (hbegins : Begins first (seen ++ [fragment]))
    (hwithin : ¬fragment.sequenceLength < fragment.sequenceNumber)
    (hfragment : action.fragment? = some fragment) :
    (adapter.act action).HoldsEpoch tracker
      (clocked.or (adapter.clockAndWeek? tracker action)) (seen ++ [fragment]) := by
  refine ⟨fun hnone => by simp at hnone, fun _ => ?_⟩
  rw [(processed_of_fragment hfragment adapter).1, List.flatMap_append, List.flatMap_singleton]
  unfold clockAndWeek? epochStep
  rw [hfragment, Option.bind_some]
  refine EpochBuffer.Gathered.add hwithin ?_ _ _
  obtain ⟨rfl, rfl⟩ | ⟨hsome, hnext⟩ := hbegins.next
  · obtain ⟨rfl, rfl⟩ := hholds.htracker rfl
    rw [if_pos hbegins.hnumber]
    exact EpochBuffer.gathered_restart _
  · rw [if_neg hnext]
    exact hholds.hgathered hsome

end HoldsEpoch

/-- An epoch is handed on with the last fragment of a sequence, as it is then. -/
theorem found_epochReport? {tracker : ClockTracker} {fragment : MeasurementFragment}
    {sources : List (MeasurementFragment × FragmentMeasurement)}
    (hwithin : ¬fragment.sequenceLength < fragment.sequenceNumber)
    (hfragment : action.fragment? = some fragment)
    (hgathered : (adapter.act action).state.processed.Gathered tracker clocked sources) :
    adapter.found Entry.epochReport? [action] =
      if fragment.isLast then (report? clocked sources).toList else [] := by
  obtain ⟨timestamp, -, hgained⟩ := adapter.gained_of_fragment hfragment
  have hprocessed := (processed_of_fragment hfragment adapter).1
  rw [hprocessed] at hgathered
  have hfinished : (adapter.standing.epochStep fragment).finished = _ :=
    EpochBuffer.add_finished_eq _ _ hwithin
  have hreport := hgathered.report_eq
  unfold found
  rw [show adapter.run [action] = adapter.act action from rfl, hgained,
    collectEntries_epochReport?, hfinished, ← hreport]
  cases fragment.isLast <;> rfl

/-- The fragments of a sequence are gathered until the last one comes, and no epoch is handed on. -/
theorem holdsEpoch_run {first : MeasurementFragment}
    (hlasts : start.Throughout (fun adapter action => ¬adapter.Severs action) actions)
    (hbegins : Begins first (delivered actions))
    (hwithin : ∀ fragment ∈ delivered actions,
      ¬fragment.sequenceLength < fragment.sequenceNumber)
    (hbefore : ∀ fragment ∈ delivered actions, fragment.isLast = false) :
    (∃ clocked, start.FirstClock actions clocked ∧
      (start.run actions).HoldsEpoch start.state.processed.tracker clocked (delivered actions)) ∧
      start.found Entry.epochReport? actions = [] := by
  refine gather_run Entry.epochReport?_of_not_handsOn
    (fun fragments => Begins first fragments ∧ ∀ fragment ∈ fragments,
      ¬fragment.sequenceLength < fragment.sequenceNumber ∧ fragment.isLast = false)
    (fun actions => ∃ clocked, start.FirstClock actions clocked ∧
      (start.run actions).HoldsEpoch start.state.processed.tracker clocked (delivered actions))
    ?_ ⟨none, .none (by simp [delivered]), fun _ => ⟨rfl, rfl⟩, fun hnone => absurd rfl hnone⟩ ?_ ?_
    hlasts
    ⟨hbegins, fun fragment hmem => ⟨hwithin fragment hmem, hbefore fragment hmem⟩⟩
  · rintro earlier later ⟨hstarts, hopen⟩
    exact ⟨hstarts.append_left, fun fragment hmem => hopen fragment (List.mem_append_left _ hmem)⟩
  · rintro actions action ⟨clocked, hfirst, hholds⟩ hlast hother
    have hquiet : (start.run actions).clockAndWeek? start.state.processed.tracker action = none := by
      unfold clockAndWeek?
      rw [hother]
      rfl
    have hstill := hfirst.concat action
    rw [hquiet, Option.or_none] at hstill
    rw [run_concat, delivered_concat_of_other hother]
    exact ⟨clocked, hstill, hholds.act_of_other hlast hother⟩
  · rintro actions action fragment ⟨clocked, hfirst, hholds⟩ ⟨hstarts, hopen⟩ hfragment
    obtain ⟨hinside, hunfinished⟩ := hopen fragment (by simp)
    have hnext := hholds.act_of_next hstarts hinside hfragment
    rw [run_concat, delivered_concat hfragment]
    refine ⟨⟨_, hfirst.concat action, hnext⟩, ?_⟩
    rw [found_epochReport? hinside hfragment (hnext.hgathered (by simp)), hunfinished]
    rfl

/-- A whole sequence is handed on with its last fragment, if there is anything of it. -/
theorem found_epochReport?_of_whole {opening : List AdapterAction} {last : MeasurementFragment}
    (hlasts : adapter.Throughout (fun adapter action => ¬adapter.Severs action) opening)
    (hfragment : action.fragment? = some last)
    (hwhole : Whole (delivered opening ++ [last]))
    (hwithin : ∀ fragment ∈ delivered opening ++ [last],
      ¬fragment.sequenceLength < fragment.sequenceNumber) :
    adapter.found Entry.epochReport? opening = [] ∧
      ∃ clocked, adapter.FirstClock (opening ++ [action]) clocked ∧
        (adapter.run opening).found Entry.epochReport? [action] =
          (report? clocked ((delivered opening ++ [last]).flatMap fresh)).toList := by
  obtain ⟨first, -, hbegins, hbefore, hlast⟩ := hwhole.of_concat
  obtain ⟨⟨clocked, hfirst, hholds⟩, hnothing⟩ := holdsEpoch_run hlasts hbegins.append_left
    (fun fragment hmem => hwithin fragment (List.mem_append_left _ hmem)) hbefore
  have hinside := hwithin last (by simp)
  have hnext := (hholds.act_of_next hbegins hinside hfragment).hgathered (by simp)
  refine ⟨hnothing, _, hfirst.concat action, ?_⟩
  rw [found_epochReport? hinside hfragment hnext, hlast, if_pos rfl]

/-- A sequence is handed on as one processed epoch, with its last fragment, exactly if it brings fresh
measurements and a GPS fragment. Neither what has been left in the buffer nor what happens meanwhile
tells on the measurements, as long as the connection lasts. The first GPS fragment gives the clock and
the time of week. -/
theorem epoch_sequence_assembled {opening : List AdapterAction} {length : UInt8}
    (hlasts : adapter.Throughout (fun adapter action => ¬adapter.Severs action) opening)
    (hdelivers : action.fragment?.isSome = true)
    (hsequence : EpochSequence length (delivered (opening ++ [action])))
    (hlong : (delivered (opening ++ [action])).length = 1 ∨ 1 < length) :
    let fragments := delivered (opening ++ [action])
    let kept := (fragments.flatMap fresh).take 64
    let reports := (adapter.run opening).found Entry.epochReport? [action]
    adapter.found Entry.epochReport? opening = [] ∧
      (reports ≠ [] ↔ (∃ fragment ∈ fragments, fragment.system = .gps) ∧ kept ≠ []) ∧
      ∀ report ∈ reports, reports = [report] ∧
        report.1.measurements = kept.map (fun source => source.2.processed source.1) ∧
        ∃ earlier arrival later gps, opening ++ [action] = earlier ++ arrival :: later ∧
          (∀ fragment ∈ delivered earlier, fragment.system ≠ .gps) ∧
          arrival.fragment? = some gps ∧ gps.system = .gps ∧
          report.1.clock = gps.clock adapter.state.processed.tracker
            (adapter.run earlier).state.sessionFresh
            ((adapter.run earlier).state.powerMode = some .m1) ∧
          report.2 =
            if ∀ source ∈ kept, source.1.jammerIndicator.isSome then -1 else gps.msInWeek := by
  intro fragments kept reports
  obtain ⟨last, hfragment⟩ := Option.isSome_iff_exists.mp hdelivers
  have hends : fragments = delivered opening ++ [last] := delivered_concat hfragment
  have hwhole := hsequence.whole hlong
  have hwithin := hsequence.within hlong
  rw [show delivered (opening ++ [action]) = _ from hends] at hwhole hwithin
  obtain ⟨hnothing, clocked, hclock, hreports⟩ :=
    found_epochReport?_of_whole hlasts hfragment hwhole hwithin
  rw [← hends] at hreports
  have hkept : kept ≠ [] ↔ fragments.flatMap fresh ≠ [] := by
    rw [ne_eq, List.take_eq_nil_iff]
    simp
  refine ⟨hnothing, ?_, fun report hmem => ?_⟩
  · rw [hkept, ← hclock.isSome_iff, ← report?_isSome_iff, show reports = _ from hreports]
    cases report? clocked (fragments.flatMap fresh) <;> simp
  · rw [show reports = _ from hreports] at hmem ⊢
    have hreport := Option.mem_toList.mp hmem
    obtain ⟨reading, hreading, hgiven, hmeasurements, hms⟩ := report?_eq_some hreport
    rw [hreport]
    refine ⟨rfl, hmeasurements, ?_⟩
    rw [hreading] at hclock
    generalize opening ++ [action] = actions at hclock ⊢
    cases hclock with
    | some hearlier hgps hsystem =>
        exact ⟨_, _, _, _, rfl, hearlier, hgps, hsystem, hgiven, hms⟩

/-- Fragments of two systems with an event between them. -/
theorem epoch_sequence_assembled_of_two :
    let opening : List AdapterAction :=
      [.handle (.indication (.measurement { ofSatellite 1 2 5 with system := .qzss })),
        .handle (.error .other)]
    let action : AdapterAction := .handle (.indication (.measurement (.ofSatellite 2 2 6)))
    startedAdapter.found Entry.epochReport? opening = [] ∧
      ∃ report, (startedAdapter.run opening).found Entry.epochReport? [action] = [report] ∧
        report.1.measurements.map ProcessedMeasurement.satelliteId = [5, 6] := by
  intro opening action
  have hdelivered : delivered (opening ++ [action]) =
      [{ ofSatellite 1 2 5 with system := .qzss }, .ofSatellite 2 2 6] := rfl
  have hsequence : EpochSequence 2 (delivered (opening ++ [action])) := by
    rw [hdelivered]
    refine ⟨?_, ⟨_, rfl, rfl⟩, ⟨_, rfl, rfl⟩, ?_⟩ <;> decide
  have hlasts : startedAdapter.Throughout (fun adapter action => ¬adapter.Severs action) opening :=
    ⟨not_severs_of_fragment rfl, not_severs_of_failure, trivial⟩
  have hdelivers : action.fragment?.isSome = true := rfl
  obtain ⟨hnothing, hreports, hall⟩ :=
    epoch_sequence_assembled hlasts hdelivers hsequence (.inr (by decide))
  rw [hdelivered] at hreports hall
  have hsome := hreports.mpr ⟨⟨_, .tail _ (.head _), rfl⟩, List.cons_ne_nil _ _⟩
  obtain ⟨report, hmem⟩ := List.exists_mem_of_ne_nil _ hsome
  obtain ⟨honly, hmeasurements, -⟩ := hall report hmem
  refine ⟨hnothing, report, honly, ?_⟩
  rw [hmeasurements]
  rfl

/-- A fragment that is one of one makes up an epoch of its own, though a last one follows. A fragment
that is one of none brings nothing. -/
theorem epoch_singles_assembled_apart :
    let five : AdapterAction := .handle (.indication (.measurement (.ofSatellite 1 1 5)))
    let six : AdapterAction := .handle (.indication (.measurement (.ofSatellite 1 1 6)))
    let beyond : AdapterAction := .handle (.indication (.measurement (.ofSatellite 1 0 5)))
    let within : AdapterAction := .handle (.indication (.measurement (.ofSatellite 0 0 6)))
    (EpochSequence 1 (delivered ([five] ++ [six])) ∧
      ∃ report, startedAdapter.found Entry.epochReport? [five] = [report] ∧
        report.1.measurements.map ProcessedMeasurement.satelliteId = [5]) ∧
      EpochSequence 0 (delivered ([beyond] ++ [within])) ∧
        ∃ report, (startedAdapter.run [beyond]).found Entry.epochReport? [within] = [report] ∧
          report.1.measurements.map ProcessedMeasurement.satelliteId = [6] := by
  intro five six beyond within
  have hsingles : delivered ([five] ++ [six]) = [.ofSatellite 1 1 5, .ofSatellite 1 1 6] := rfl
  have hempty : delivered ([beyond] ++ [within]) = [.ofSatellite 1 0 5, .ofSatellite 0 0 6] := rfl
  refine ⟨⟨?_, _, rfl, rfl⟩, ?_, _, rfl, rfl⟩
  · rw [hsingles]
    refine ⟨?_, ⟨_, rfl, rfl⟩, ⟨_, rfl, rfl⟩, ?_⟩ <;> decide
  · rw [hempty]
    refine ⟨?_, ⟨_, rfl, rfl⟩, ⟨_, rfl, rfl⟩, ?_⟩ <;> decide

end Adapter

end GnssAdapter
