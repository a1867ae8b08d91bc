import GnssAdapter.Proofs.Course
import GnssAdapter.Proofs.Starting

/-!
What processed epochs hold. An epoch is kept when it is handed on: unless a first fragment comes or
the connection is severed, the next epoch that is handed on begins with all its measurements.
-/

namespace GnssAdapter

/-! ### What a fragment adds -/

namespace MeasurementFragment

/-- The fragment begins a sequence, and lies within it. -/
def BeginsEpoch (fragment : MeasurementFragment) : Prop :=
  fragment.sequenceNumber = 1 ∧ ¬fragment.sequenceLength < fragment.sequenceNumber

instance (fragment : MeasurementFragment) : Decidable fragment.BeginsEpoch :=
  inferInstanceAs (Decidable (_ ∧ _))

/-- The processed forms of the fresh measurements of a fragment that lies within its sequence. Its
overflow list only continues a list that is there. -/
def additions (fragment : MeasurementFragment) : List ProcessedMeasurement :=
  if fragment.sequenceLength < fragment.sequenceNumber then []
  else match fragment.measurements.getD [] with
    | [] => []
    | primary =>
        ((primary ++ fragment.overflowMeasurements.getD []).filter FragmentMeasurement.isFresh).map
          fun native => native.processed fragment

end MeasurementFragment

namespace EpochBuffer

open MeasurementFragment

variable {buffer : EpochBuffer} {fragment : MeasurementFragment}

theorem push_of_fresh {native : FragmentMeasurement} (hfresh : native.isFresh = true)
    (hroom : buffer.epoch.measurements.length ≤ capacity) :
    (push fragment buffer native).epoch.measurements =
      (buffer.epoch.measurements ++ [native.processed fragment]).take capacity := by
  unfold push
  rw [hfresh, Bool.and_true]
  by_cases hfits : buffer.epoch.measurements.length < capacity
  · rw [if_pos (decide_eq_true hfits), List.take_of_length_le]
    rw [List.length_append]
    exact hfits
  · -- The epoch is full and stays as it is.
    rw [if_neg (by simpa using hfits), List.take_append_of_le_length (Nat.le_of_not_lt hfits),
      List.take_of_length_le hroom]

theorem push_of_stale {native : FragmentMeasurement} (hstale : ¬native.isFresh = true) :
    push fragment buffer native = buffer := by
  unfold push
  rw [Bool.eq_false_iff.mpr hstale, Bool.and_false]
  rfl

theorem foldl_push_measurements (natives : List FragmentMeasurement)
    (hroom : buffer.epoch.measurements.length ≤ capacity) :
    (natives.foldl (push fragment) buffer).epoch.measurements =
      (buffer.epoch.measurements ++
        (natives.filter FragmentMeasurement.isFresh).map
          fun native => native.processed fragment).take capacity := by
  induction natives generalizing buffer with
  | nil =>
      rw [List.filter_nil, List.map_nil, List.append_nil, List.take_of_length_le hroom]
      rfl
  | cons native rest ih =>
      rw [List.foldl_cons]
      by_cases hfresh : native.isFresh = true
      · have hpushed : (push fragment buffer native).epoch.measurements = _ :=
          push_of_fresh hfresh hroom
        rw [ih (hpushed ▸ List.length_take_le ..), hpushed, take_append_take,
          List.filter_cons_of_pos hfresh, List.map_cons, List.append_assoc]
        rfl
      · rw [push_of_stale hfresh, ih hroom, List.filter_cons_of_neg hfresh]

theorem pushAll_measurements (hwithin : ¬fragment.sequenceLength < fragment.sequenceNumber)
    (hroom : buffer.epoch.measurements.length ≤ capacity) :
    (buffer.pushAll fragment).epoch.measurements =
      (buffer.epoch.measurements ++ fragment.additions).take capacity := by
  unfold pushAll additions
  rw [if_neg hwithin]
  cases fragment.measurements.getD [] with
  | nil =>
      dsimp only
      rw [List.append_nil, List.take_of_length_le hroom]
  | cons first rest =>
      dsimp only
      split
      · exact foldl_push_measurements (first :: rest ++ _) hroom
      · exact foldl_push_measurements (first :: rest ++ _) hroom

/-- The clock of an epoch and its measurements do not hang on each other. -/
theorem setClock_measurements (newSession fullPower : Bool) :
    (buffer.setClock fragment newSession fullPower).epoch.measurements =
      buffer.epoch.measurements := by
  unfold setClock
  dsimp only
  split <;> rfl

/-- Only a fragment that begins a sequence makes room for its measurements. -/
theorem add_measurements (newSession fullPower : Bool)
    (hroom : buffer.epoch.measurements.length ≤ capacity) :
    (buffer.add fragment newSession fullPower).buffer.epoch.measurements =
      ((if fragment.BeginsEpoch then [] else buffer.epoch.measurements) ++
        fragment.additions).take capacity := by
  unfold add
  by_cases hbeyond : fragment.sequenceLength < fragment.sequenceNumber
  · rw [if_pos hbeyond, if_neg fun hbegins => hbegins.2 hbeyond]
    unfold additions
    rw [if_pos hbeyond, List.append_nil, List.take_of_length_le hroom]
  · rw [if_neg hbeyond]
    dsimp only
    have htimed (prepared : EpochBuffer) :
        (if prepared.takesClock fragment then prepared.setClock fragment newSession fullPower
          else prepared).epoch.measurements = prepared.epoch.measurements := by
      split
      · exact setClock_measurements ..
      · rfl
    rw [htimed]
    by_cases hfirst : fragment.sequenceNumber = 1
    · rw [if_pos hfirst, if_pos ⟨hfirst, hbeyond⟩]
      exact pushAll_measurements hbeyond (Nat.zero_le _)
    · rw [if_neg hfirst, if_neg fun hbegins => hfirst hbegins.1]
      exact pushAll_measurements hbeyond hroom

/-- The epoch with the measurements of a fragment, before its clock is looked at. -/
def prepared (buffer : EpochBuffer) (fragment : MeasurementFragment) : EpochBuffer :=
  (if fragment.sequenceNumber = 1 then buffer.restart else buffer).pushAll fragment

theorem add_eq (hwithin : ¬fragment.sequenceLength < fragment.sequenceNumber)
    (newSession fullPower : Bool) :
    let step := buffer.add fragment newSession fullPower
    let prepared := buffer.prepared fragment
    step.clockTaken = prepared.takesClock fragment ∧
      step.buffer =
        if prepared.takesClock fragment then prepared.setClock fragment newSession fullPower
        else prepared := by
  unfold add
  rw [if_neg hwithin]
  exact ⟨rfl, rfl⟩

theorem push_eq (fragment : MeasurementFragment) (buffer : EpochBuffer)
    (native : FragmentMeasurement) :
    ∃ measurements gainPresent, push fragment buffer native =
      { buffer with epoch := { buffer.epoch with measurements }, gainPresent } := by
  unfold push
  split
  · exact ⟨_, _, rfl⟩
  · exact ⟨buffer.epoch.measurements, buffer.gainPresent, rfl⟩

theorem foldl_push_eq (natives : List FragmentMeasurement) (buffer : EpochBuffer) :
    ∃ measurements gainPresent, natives.foldl (push fragment) buffer =
      { buffer with epoch := { buffer.epoch with measurements }, gainPresent } := by
  induction natives generalizing buffer with
  | nil => exact ⟨buffer.epoch.measurements, buffer.gainPresent, rfl⟩
  | cons native rest ih =>
      obtain ⟨measurements, gainPresent, hpushed⟩ := push_eq fragment buffer native
      rw [List.foldl_cons, hpushed]
      exact ih _

/-- The measurements of a fragment leave the clock of the epoch alone. -/
theorem pushAll_eq (buffer : EpochBuffer) (fragment : MeasurementFragment) :
    ∃ measurements gainPresent, buffer.pushAll fragment =
      { buffer with epoch := { buffer.epoch with measurements }, gainPresent } := by
  unfold pushAll
  split
  · exact ⟨buffer.epoch.measurements, buffer.gainPresent, rfl⟩
  · dsimp only
    split
    · exact foldl_push_eq _ { buffer with gainPresent := true }
    · exact foldl_push_eq _ buffer

/-- The epoch that a fragment leaves in the buffer is the one that is finished with it. -/
theorem add_finished_eq (newSession fullPower : Bool)
    (hwithin : ¬fragment.sequenceLength < fragment.sequenceNumber) :
    let step := buffer.add fragment newSession fullPower
    step.finished =
      if fragment.isLast && !step.buffer.epoch.measurements.isEmpty && step.buffer.clockSeen then
        some (step.buffer.epoch, step.buffer.reportedMs)
      else none := by
  unfold add
  rw [if_neg hwithin]

theorem add_finished {newSession fullPower : Bool} {epoch : ProcessedEpoch} {msInWeek : Int32}
    (hfinished : (buffer.add fragment newSession fullPower).finished = some (epoch, msInWeek)) :
    let merged := (buffer.add fragment newSession fullPower).buffer
    epoch = merged.epoch ∧ epoch.measurements ≠ [] ∧ merged.clockSeen = true := by
  by_cases hbeyond : fragment.sequenceLength < fragment.sequenceNumber
  · unfold add at hfinished
    rw [if_pos hbeyond] at hfinished
    cases hfinished
  · rw [add_finished_eq newSession fullPower hbeyond] at hfinished
    generalize (buffer.add fragment newSession fullPower).buffer = merged at hfinished ⊢
    split at hfinished
    · rename_i hlast
      cases hfinished
      rw [Bool.and_eq_true, Bool.and_eq_true, Bool.not_eq_true', List.isEmpty_eq_false_iff] at hlast
      exact ⟨rfl, hlast.1.2, hlast.2⟩
    · cases hfinished

end EpochBuffer

/-! ### What an action makes of the epoch -/

def Entry.epoch? : Entry → Option ProcessedEpoch
  | .notified (.processedEpoch epoch _) => some epoch
  | _ => none

theorem Entry.epoch?_of_not_handsOn (entry : Entry) (hsilent : entry.handsOn = false) :
    entry.epoch? = none := by
  cases entry with
  | notified callback =>
      cases callback with
      | processedEpoch epoch msInWeek => cases hsilent
      | _ => rfl
  | _ => rfl

theorem Standing.collectEntries_epoch? (standing : Standing) (fragment : MeasurementFragment)
    (timestamp : ApTimestamp) :
    (standing.collectEntries fragment timestamp).filterMap Entry.epoch? =
      ((standing.epochStep fragment).finished.map Prod.fst).toList := by
  unfold collectEntries
  rw [List.filterMap_append, List.filterMap_append]
  cases (standing.epochStep fragment).finished <;> cases standing.finishedSet? fragment <;> rfl

namespace Adapter

open AdapterM Standing MeasurementFragment

variable {σ : Type} [Environment σ] {adapter : Adapter σ} {action : AdapterAction}
  {after : Standing}

/-- The measurements of the epoch being assembled. -/
def measured (adapter : Adapter σ) : List ProcessedMeasurement :=
  adapter.state.processed.epoch.measurements

/-- The processed epochs that the adapter hands on with an action. -/
def epochsHanded (adapter : Adapter σ) (action : AdapterAction) : List ProcessedEpoch :=
  (gained adapter.history (adapter.act action).history).filterMap Entry.epoch?

/-- The action starts a new epoch. -/
def RenewsEpoch (adapter : Adapter σ) (action : AdapterAction) : Prop :=
  adapter.Severs action ∨ ∃ fragment, action.fragment? = some fragment ∧ fragment.BeginsEpoch

theorem Course.processed_of_severs (hcourse : adapter.Course action after)
    (hsevers : adapter.Severs action) : after.state.processed = {} := by
  cases hcourse with
  | retain _ _ hlasts => exact absurd hsevers hlasts
  | «open» _ _ hlasts => exact absurd hsevers hlasts
  | sever _ hstate =>
      rw [hstate]
      rfl
  | stopFix | keepTypes | sendTypes | collect => cases hsevers

theorem Course.processed_of_lasts (hcourse : adapter.Course action after)
    (hother : action.fragment? = none) (hlasts : ¬adapter.Severs action) :
    after.state.processed = adapter.state.processed := by
  cases hcourse with
  | retain _ _ _ hretains => exact congrArg (·.2.2) hretains.hcollected
  | «open» _ _ _ hretains => exact congrArg (·.2.2) hretains.hcollected
  | sever hsevers => exact absurd hsevers hlasts
  | stopFix hretains => exact congrArg (·.2.2) hretains.hcollected
  | keepTypes => rfl
  | sendTypes _ answer accepted => exact (sendTypes_epochs _ _ answer accepted).2
  | collect => cases hother

theorem processed_of_fragment {fragment : MeasurementFragment}
    (hfragment : action.fragment? = some fragment) (adapter : Adapter σ) :
    (adapter.act action).state.processed = (adapter.standing.epochStep fragment).buffer ∧
      adapter.epochsHanded action =
        ((adapter.standing.epochStep fragment).finished.map Prod.fst).toList := by
  obtain ⟨timestamp, hcollected, hgained⟩ := adapter.gained_of_fragment hfragment
  rw [collect_eq] at hcollected
  refine ⟨congrArg (·.state.processed) hcollected, ?_⟩
  unfold epochsHanded
  rw [hgained, collectEntries_epoch?]

/-- With an action at most one epoch is handed on. It has measurements and a clock, and stays in the
buffer. -/
theorem epochsHanded_eq {epoch : ProcessedEpoch} (hmem : epoch ∈ adapter.epochsHanded action) :
    let buffer := (adapter.act action).state.processed
    adapter.epochsHanded action = [epoch] ∧ epoch = buffer.epoch ∧ epoch.measurements ≠ [] ∧
      buffer.clockSeen = true := by
  cases hfragment : action.fragment? with
  | none =>
      have hnone : adapter.epochsHanded action = [] :=
        filterMap_gained_of_other Entry.epoch?_of_not_handsOn hfragment
      rw [hnone] at hmem
      cases hmem
  | some fragment =>
      obtain ⟨hprocessed, hhanded⟩ := processed_of_fragment hfragment adapter
      rw [hhanded, Option.mem_toList, Option.map_eq_some_iff] at hmem
      obtain ⟨⟨finished, msInWeek⟩, hfinished, rfl⟩ := hmem
      rw [hhanded, hprocessed, hfinished]
      exact ⟨rfl, EpochBuffer.add_finished hfinished⟩

theorem epochsHanded_kept {epoch : ProcessedEpoch} (hmem : epoch ∈ adapter.epochsHanded action) :
    adapter.epochsHanded action = [epoch] ∧ epoch.measurements = (adapter.act action).measured ∧
      epoch.measurements ≠ [] := by
  obtain ⟨hsingle, hkept, hsome, -⟩ := epochsHanded_eq hmem
  exact ⟨hsingle, congrArg ProcessedEpoch.measurements hkept, hsome⟩

/-! ### What an epoch is made of -/

theorem measured_of_fragment {fragment : MeasurementFragment}
    (hfragment : action.fragment? = some fragment)
    (hroom : adapter.measured.length ≤ EpochBuffer.capacity) :
    (adapter.act action).measured =
      ((if fragment.BeginsEpoch then [] else adapter.measured) ++
        fragment.additions).take EpochBuffer.capacity := by
  have hprocessed := (processed_of_fragment hfragment adapter).1
  unfold measured
  rw [hprocessed]
  exact EpochBuffer.add_measurements _ _ hroom

theorem measured_of_renews (hrenews : adapter.RenewsEpoch action)
    (hroom : adapter.measured.length ≤ EpochBuffer.capacity) :
    (adapter.act action).measured =
      ((delivered [action]).flatMap additions).take EpochBuffer.capacity := by
  rcases hrenews with hsevers | ⟨fragment, hfragment, hbegins⟩
  · rw [delivered_singleton, hsevers.fragment?_eq]
    exact congrArg (·.epoch.measurements) ((adapter.act_course action).processed_of_severs hsevers)
  · rw [measured_of_fragment hfragment hroom, if_pos hbegins, delivered_singleton, hfragment,
      List.nil_append, Option.toList_some, List.flatMap_singleton]

theorem measured_of_lasts (hlasts : ¬adapter.RenewsEpoch action)
    (hroom : adapter.measured.length ≤ EpochBuffer.capacity) :
    (adapter.act action).measured =
      (adapter.measured ++ (delivered [action]).flatMap additions).take EpochBuffer.capacity := by
  obtain ⟨hconnected, hcontinues⟩ := not_or.mp hlasts
  cases hfragment : action.fragment? with
  | none =>
      rw [delivered_singleton, hfragment, Option.toList_none, List.flatMap_nil, List.append_nil,
        List.take_of_length_le hroom]
      exact congrArg (·.epoch.measurements)
        ((adapter.act_course action).processed_of_lasts hfragment hconnected)
  | some fragment =>
      have hnext : ¬fragment.BeginsEpoch := fun hbegins => hcontinues ⟨fragment, hfragment, hbegins⟩
      rw [measured_of_fragment hfragment hroom, if_neg hnext, delivered_singleton, hfragment,
        Option.toList_some, List.flatMap_singleton]

theorem length_measured_act (hroom : adapter.measured.length ≤ EpochBuffer.capacity)
    (action : AdapterAction) : (adapter.act action).measured.length ≤ EpochBuffer.capacity := by
  by_cases hrenews : adapter.RenewsEpoch action
  · rw [measured_of_renews hrenews hroom]
    exact List.length_take_le ..
  · rw [measured_of_lasts hrenews hroom]
    exact List.length_take_le ..

theorem length_measured_run (hroom : adapter.measured.length ≤ EpochBuffer.capacity)
    (actions : List AdapterAction) :
    (adapter.run actions).measured.length ≤ EpochBuffer.capacity := by
  induction actions generalizing adapter with
  | nil => exact hroom
  | cons action rest ih => exact ih (length_measured_act hroom action)

theorem Reachable.length_measured (hreachable : adapter.Reachable) :
    adapter.measured.length ≤ EpochBuffer.capacity := by
  obtain ⟨config, surroundings, shared, actions, rfl⟩ := hreachable
  exact length_measured_run (Nat.zero_le _) actions

/-- As long as no new epoch is started, what is delivered comes on top. -/
theorem measured_run {actions : List AdapterAction}
    (hlasts : adapter.Throughout (fun adapter action => ¬adapter.RenewsEpoch action) actions)
    (hroom : adapter.measured.length ≤ EpochBuffer.capacity) :
    (adapter.run actions).measured =
      (adapter.measured ++ (delivered actions).flatMap additions).take EpochBuffer.capacity := by
  induction actions generalizing adapter with
  | nil =>
      change adapter.measured = (adapter.measured ++ []).take _
      rw [List.append_nil, List.take_of_length_le hroom]
  | cons action rest ih =>
      rw [run_cons, ih hlasts.2 (length_measured_act hroom action),
        measured_of_lasts hlasts.1 hroom, take_append_take, delivered_cons action rest,
        List.flatMap_append, List.append_assoc]

/-- An epoch that is started holds what is delivered from then on, and nothing from before. -/
theorem measured_since {action : AdapterAction} {rest : List AdapterAction}
    (hrenews : adapter.RenewsEpoch action)
    (hlasts : (adapter.act action).Throughout
      (fun adapter action => ¬adapter.RenewsEpoch action) rest)
    (hroom : adapter.measured.length ≤ EpochBuffer.capacity) :
    ((adapter.act action).run rest).measured =
      ((delivered (action :: rest)).flatMap additions).take EpochBuffer.capacity := by
  rw [measured_run hlasts (length_measured_act hroom action), measured_of_renews hrenews hroom,
    take_append_take, delivered_cons action rest, List.flatMap_append]

/-- Of two processed epochs that are handed on in a run, the second repeats all measurements of the
first, unless a new epoch has been started since; then it has none but those delivered since the
latest start. A new epoch is started with a fragment that begins a sequence, and when the connection
is severed. -/
theorem epochsHanded_again {first second : AdapterAction} {between : List AdapterAction}
    {earlier later : ProcessedEpoch} (hreachable : adapter.Reachable)
    (hearlier : earlier ∈ adapter.epochsHanded first)
    (hlater : later ∈ ((adapter.act first).run between).epochsHanded second) :
    let next := adapter.act first
    let since := between ++ [second]
    adapter.epochsHanded first = [earlier] ∧
      (next.Throughout (fun adapter action => ¬adapter.RenewsEpoch action) since ∧
          earlier.measurements ≠ [] ∧ earlier.measurements <+: later.measurements ∧
          later.measurements =
            (earlier.measurements ++ (delivered since).flatMap additions).take 64 ∨
        ∃ before renewal rest, since = before ++ renewal :: rest ∧
          (next.run before).RenewsEpoch renewal ∧
          ((next.run before).act renewal).Throughout
            (fun adapter action => ¬adapter.RenewsEpoch action) rest ∧
          later.measurements = ((delivered (renewal :: rest)).flatMap additions).take 64) := by
  intro next since
  obtain ⟨hsingle, hkept, hsome⟩ := epochsHanded_kept hearlier
  obtain ⟨-, hlast, -⟩ := epochsHanded_kept hlater
  -- Both epochs are what their actions leave in the buffer, so the run between them decides.
  have hroom := (hreachable.act first).length_measured
  rw [← run_concat] at hlast
  refine ⟨hsingle, ?_⟩
  rcases throughout_not_or_latest RenewsEpoch next since with
    hlasts | ⟨before, renewal, rest, hsince, hrenews, hlasts⟩
  · have hlonger := hlast.trans (measured_run hlasts hroom)
    rw [← hkept] at hlonger hroom
    refine .inl ⟨hlasts, hsome, ?_, hlonger⟩
    rw [hlonger, List.take_append, List.take_of_length_le hroom]
    exact List.prefix_append ..
  · refine .inr ⟨before, renewal, rest, hsince, hrenews, hlasts, ?_⟩
    rw [hlast, show between ++ [second] = before ++ renewal :: rest from hsince, run_append,
      run_cons]
    exact measured_since hrenews hlasts (length_measured_run hroom before)

/-- With a sequence of its own, the second epoch has none but its own measurements. -/
theorem epochsHanded_again_of_own :
    let adapter := obligedAfter [.execute (.connect (.single .niRequest))]
    let first : AdapterAction := .handle (.indication (.measurement (.ofSatellite 1 1 5)))
    let second : AdapterAction := .handle (.indication (.measurement (.ofSatellite 1 1 6)))
    ∃ earlier later, adapter.epochsHanded first = [earlier] ∧
      (adapter.act first).epochsHanded second = [later] ∧
      later.measurements = (ofSatellite 1 1 6).additions := by
  intro adapter first second
  obtain ⟨earlier, later, hearlier, hlater⟩ : ∃ earlier later,
      adapter.epochsHanded first = [earlier] ∧
        (adapter.act first).epochsHanded second = [later] := ⟨_, _, rfl, rfl⟩
  refine ⟨earlier, later, hearlier, hlater, ?_⟩
  have hreachable : adapter.Reachable := ⟨_, _, _, _, rfl⟩
  have hfirst : earlier ∈ adapter.epochsHanded first := hearlier ▸ .head _
  have hsecond : later ∈ ((adapter.act first).run []).epochsHanded second := hlater ▸ .head _
  rcases (epochsHanded_again hreachable hfirst hsecond).2 with
    ⟨hlasts, -⟩ | ⟨before, renewal, rest, hsince, -, -, hmeasurements⟩
  · exact absurd (.inr ⟨_, rfl, by decide⟩) hlasts.1
  · obtain ⟨rfl, rfl, rfl⟩ : before = [] ∧ renewal = second ∧ rest = [] := by
      rcases before with _ | ⟨head, tail⟩
      · cases hsince
        exact ⟨rfl, rfl, rfl⟩
      · simp at hsince
    exact hmeasurements

/-- With a sequence of which only the end arrives, the second epoch repeats the first. -/
theorem epochsHanded_repeated :
    let adapter := obligedAfter [.execute (.connect (.single .niRequest))]
    let first : AdapterAction := .handle (.indication (.measurement (.ofSatellite 1 1 5)))
    let second : AdapterAction := .handle (.indication (.measurement (.ofSatellite 2 2 6)))
    ∃ earlier later measurement, adapter.epochsHanded first = [earlier] ∧
      (adapter.act first).epochsHanded second = [later] ∧
      measurement ∈ earlier.measurements ∧ measurement ∈ later.measurements :=
  ⟨_, _, _, rfl, rfl, .head _, .head _⟩

end Adapter

end GnssAdapter
