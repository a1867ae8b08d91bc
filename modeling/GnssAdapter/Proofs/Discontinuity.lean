import GnssAdapter.Proofs.Epochs
import GnssAdapter.Proofs.Timing
import Mathlib.Data.List.Induction

/-!
Discontinuities of the receiver clock. They are counted across epochs, and an epoch carries the
count at its clock. The clock is taken from the first GPS fragment of an epoch, whether or not that
has a reading of it. A fragment without one uses up the mark of a new session and leaves its epoch
with a count of zero, so that a session may begin without being counted and the count may fall from
one epoch to the next.
-/

namespace GnssAdapter

/-- A count of 32 bits falls if it runs over, and only then. -/
theorem le_add_ofNat_iff (count : UInt32) (more : Nat) :
    count ≤ count + .ofNat more ↔ count.toNat + more % UInt32.size < UInt32.size := by
  have hcount := count.toNat_lt
  unfold UInt32.size
  rw [UInt32.le_iff_toNat_le, UInt32.toNat_add, UInt32.toNat_ofNat']
  omega

/-- The frame count and the count of resets, by which the receiver clock is followed. -/
def MeasurementFragment.reading? (fragment : MeasurementFragment) : Option (UInt32 × UInt32) :=
  match fragment.frameTime, fragment.clockResets with
  | some frame, some resets => some (frame.frameCount, resets)
  | _, _ => none

namespace ClockTracker

/-- A reading counts as a discontinuity. -/
def breaks (tracker : ClockTracker) (newSession fullPower : Bool) (reading : UInt32 × UInt32) :
    Bool :=
  (newSession || reading.2 != tracker.clockResets || reading.1 ≤ tracker.frameCount) && !fullPower

theorem observe_discontinuities (tracker : ClockTracker) (newSession fullPower : Bool)
    (reading : UInt32 × UInt32) :
    (tracker.observe reading.1 reading.2 newSession fullPower).discontinuities =
      tracker.discontinuities +
        .ofNat (if tracker.breaks newSession fullPower reading then 1 else 0) := by
  unfold observe breaks
  dsimp only
  split
  · rfl
  · exact (UInt32.add_zero _).symm

/-- Short of full power, a discontinuity raises the count by one and nothing else does. -/
theorem observe_discontinuities_eq_iff (tracker : ClockTracker) (newSession : Bool)
    (reading : UInt32 × UInt32) :
    let observed := tracker.observe reading.1 reading.2 newSession false
    (observed.discontinuities = tracker.discontinuities + 1 ↔
        newSession = true ∨ reading.2 ≠ tracker.clockResets ∨ reading.1 ≤ tracker.frameCount) ∧
      (observed.discontinuities = tracker.discontinuities + 1 ∨
        observed.discontinuities = tracker.discontinuities) := by
  intro observed
  have hobserved : observed.discontinuities = _ :=
    tracker.observe_discontinuities newSession false reading
  have hbreaks : tracker.breaks newSession false reading = true ↔
      newSession = true ∨ reading.2 ≠ tracker.clockResets ∨ reading.1 ≤ tracker.frameCount := by
    simp [breaks, or_assoc]
  rw [hobserved, ← hbreaks]
  cases tracker.breaks newSession false reading with
  | true => exact ⟨⟨fun _ => rfl, fun _ => rfl⟩, .inl rfl⟩
  | false => simp

end ClockTracker

theorem ReceiverClock.setBias_discontinuities (clock : ReceiverClock) (time : SystemTime) :
    (clock.setBias time).discontinuities = clock.discontinuities := by
  unfold setBias
  split <;> rfl

/-! ### The clock of an epoch -/

namespace EpochBuffer

variable {buffer before after : EpochBuffer} {fragment : MeasurementFragment}
  {newSession fullPower : Bool}

/-- The count of discontinuities that the epoch carries. -/
def count (buffer : EpochBuffer) : UInt32 :=
  buffer.epoch.clock.discontinuities

/-- An epoch carries the count of all discontinuities or none, and none before it has a clock. -/
structure Counted (buffer : EpochBuffer) : Prop where
  hunseen : buffer.clockSeen = false → buffer.count = 0
  hcount : buffer.count = 0 ∨ buffer.count = buffer.tracker.discontinuities

/-- What becomes of the clock, and the fragment that it is taken from if there is one. -/
inductive ClockStep (before after : EpochBuffer) (newSession fullPower : Bool) :
    Option MeasurementFragment → Prop
  | keep (hseen : after.clockSeen = before.clockSeen) (htracker : after.tracker = before.tracker)
      (hcount : after.count = before.count) : ClockStep before after newSession fullPower none
  | restart (hunseen : after.clockSeen = false) (htracker : after.tracker = before.tracker)
      (hcount : after.count = 0) : ClockStep before after newSession fullPower none
  | read {fragment : MeasurementFragment} (reading : UInt32 × UInt32)
      (hreading : fragment.reading? = some reading) (hseen : after.clockSeen = true)
      (htracker : after.tracker =
        before.tracker.observe reading.1 reading.2 newSession fullPower)
      (hcount : after.count = after.tracker.discontinuities) :
      ClockStep before after newSession fullPower (some fragment)
  | miss {fragment : MeasurementFragment} (hreading : fragment.reading? = none)
      (hseen : after.clockSeen = true) (htracker : after.tracker = before.tracker)
      (hcount : after.count = 0) : ClockStep before after newSession fullPower (some fragment)

theorem ClockStep.counted {clock : Option MeasurementFragment} (hcounted : before.Counted)
    (hstep : ClockStep before after newSession fullPower clock) : after.Counted := by
  cases hstep with
  | keep hseen htracker hcount =>
      refine ⟨fun hunseen => ?_, ?_⟩
      · rw [hcount]
        exact hcounted.hunseen (hseen.symm.trans hunseen)
      · rw [hcount, htracker]
        exact hcounted.hcount
  | restart hunseen htracker hcount => exact ⟨fun _ => hcount, .inl hcount⟩
  | read reading hreading hseen htracker hcount =>
      exact ⟨fun hunseen => absurd (hseen.symm.trans hunseen) (by decide), .inr hcount⟩
  | miss hreading hseen htracker hcount => exact ⟨fun _ => hcount, .inl hcount⟩

/-- A discontinuity is counted with a reading, and at no other time. -/
theorem ClockStep.tracker_discontinuities {clock : Option MeasurementFragment}
    (hstep : ClockStep before after newSession fullPower clock) :
    after.tracker.discontinuities = before.tracker.discontinuities +
      .ofNat (if (clock.bind MeasurementFragment.reading?).any
        (before.tracker.breaks newSession fullPower) then 1 else 0) := by
  cases hstep with
  | keep hseen htracker | restart hunseen htracker =>
      rw [htracker]
      exact (UInt32.add_zero _).symm
  | read reading hreading hseen htracker =>
      rw [htracker, ClockTracker.observe_discontinuities, Option.bind_some, hreading,
        Option.any_some]
  | miss hreading hseen htracker =>
      rw [htracker, Option.bind_some, hreading]
      exact (UInt32.add_zero _).symm

/-- Without a reading, the tracker of discontinuities stays as it is. -/
theorem ClockStep.tracker_eq {clock : Option MeasurementFragment}
    (hstep : ClockStep before after newSession fullPower clock)
    (hunread : ∀ fragment ∈ clock, fragment.reading? = none) : after.tracker = before.tracker := by
  cases hstep with
  | keep hseen htracker | restart hunseen htracker | miss hreading hseen htracker => exact htracker
  | read reading hreading => cases hreading.symm.trans (hunread _ rfl)

theorem setClock_of_reading (buffer : EpochBuffer) (newSession fullPower : Bool)
    {reading : UInt32 × UInt32} (hreading : fragment.reading? = some reading) :
    let clocked := buffer.setClock fragment newSession fullPower
    clocked.tracker = buffer.tracker.observe reading.1 reading.2 newSession fullPower ∧
      clocked.count = clocked.tracker.discontinuities := by
  obtain ⟨frame, resets, hframe, hresets, rfl⟩ : ∃ frame resets,
      fragment.frameTime = some frame ∧ fragment.clockResets = some resets ∧
        reading = (frame.frameCount, resets) := by
    unfold MeasurementFragment.reading? at hreading
    split at hreading
    · exact ⟨_, _, ‹_›, ‹_›, (Option.some.inj hreading).symm⟩
    · cases hreading
  unfold setClock count
  rw [hframe, hresets]
  refine ⟨rfl, ?_⟩
  cases fragment.receiverClockFrequency <;> cases fragment.systemTime <;>
    first | rfl | exact ReceiverClock.setBias_discontinuities ..

theorem setClock_of_unread (buffer : EpochBuffer) (newSession fullPower : Bool)
    (hunread : fragment.reading? = none) :
    let clocked := buffer.setClock fragment newSession fullPower
    clocked.tracker = buffer.tracker ∧ clocked.count = buffer.count := by
  unfold MeasurementFragment.reading? at hunread
  split at hunread
  · cases hunread
  · rename_i hmissing
    unfold setClock count
    split
    · exact absurd ‹_› (hmissing _ _ ‹_›)
    · refine ⟨rfl, ?_⟩
      cases fragment.receiverClockFrequency <;> rfl

/-- Before the clock is looked at, it has been cleared by a first fragment or left as it was. -/
theorem prepared_clock (buffer : EpochBuffer) (fragment : MeasurementFragment) :
    let prepared := buffer.prepared fragment
    prepared.tracker = buffer.tracker ∧
      (prepared.clockSeen = false ∧ prepared.count = 0 ∨
        prepared.clockSeen = buffer.clockSeen ∧ prepared.count = buffer.count) := by
  unfold prepared
  dsimp only
  split
  · obtain ⟨measurements, gainPresent, hpushed⟩ := pushAll_eq buffer.restart fragment
    rw [hpushed]
    exact ⟨rfl, .inl ⟨rfl, rfl⟩⟩
  · obtain ⟨measurements, gainPresent, hpushed⟩ := pushAll_eq buffer fragment
    rw [hpushed]
    exact ⟨rfl, .inr ⟨rfl, rfl⟩⟩

theorem add_clockStep (hcounted : buffer.Counted) (fragment : MeasurementFragment)
    (newSession fullPower : Bool) :
    let step := buffer.add fragment newSession fullPower
    ClockStep buffer step.buffer newSession fullPower
      (if step.clockTaken then some fragment else none) := by
  intro step
  by_cases hbeyond : fragment.sequenceLength < fragment.sequenceNumber
  · have hunchanged : step = ⟨buffer, false, none⟩ := if_pos hbeyond
    rw [hunchanged]
    exact .keep rfl rfl rfl
  obtain ⟨htaken, hadded⟩ : step.clockTaken = _ ∧ step.buffer = _ :=
    add_eq hbeyond newSession fullPower
  obtain ⟨htracker, hstarted⟩ := prepared_clock buffer fragment
  rw [htaken, hadded]
  generalize buffer.prepared fragment = prepared at *
  by_cases htakes : prepared.takesClock fragment = true
  · rw [if_pos htakes, if_pos htakes]
    have hunseen : prepared.clockSeen = false := by
      unfold takesClock at htakes
      rw [Bool.and_eq_true, Bool.not_eq_true'] at htakes
      exact htakes.2
    have hnone : prepared.count = 0 := by
      rcases hstarted with ⟨-, hcount⟩ | ⟨hseen, hcount⟩
      · exact hcount
      · exact hcount.trans (hcounted.hunseen (hseen.symm.trans hunseen))
    cases hreading : fragment.reading? with
    | some reading =>
        obtain ⟨hobserved, hcarried⟩ :=
          prepared.setClock_of_reading newSession fullPower hreading
        exact .read reading hreading rfl (by rw [hobserved, htracker]) hcarried
    | none =>
        obtain ⟨hkept, hcarried⟩ := prepared.setClock_of_unread newSession fullPower hreading
        exact .miss hreading rfl (hkept.trans htracker) (hcarried.trans hnone)
  · rw [if_neg htakes, if_neg htakes]
    rcases hstarted with ⟨hseen, hcount⟩ | ⟨hseen, hcount⟩
    · exact .restart hseen htracker hcount
    · exact .keep hseen htracker hcount

end EpochBuffer

namespace Adapter

open AdapterM Standing MeasurementFragment EpochBuffer

variable {σ : Type} {adapter : Adapter σ} {action : AdapterAction}

/-- The fragment from which an action takes the clock of an epoch. -/
def clock? (adapter : Adapter σ) (action : AdapterAction) : Option MeasurementFragment :=
  action.fragment?.filter fun fragment => (adapter.standing.epochStep fragment).clockTaken

theorem clock?_of_other (hother : action.fragment? = none) : adapter.clock? action = none := by
  unfold clock?
  rw [hother]
  rfl

theorem clock?_of_fragment {fragment : MeasurementFragment}
    (hfragment : action.fragment? = some fragment) :
    adapter.clock? action =
      if (adapter.standing.epochStep fragment).clockTaken then some fragment else none := by
  unfold clock?
  rw [hfragment]
  rfl

variable [Environment σ]

/-! ### The clocks of a run -/

/-- The fragments from which the clocks of a run are taken. -/
def clocks (adapter : Adapter σ) : List AdapterAction → List MeasurementFragment
  | [] => []
  | action :: rest => (adapter.clock? action).toList ++ (adapter.act action).clocks rest

/-- The action counts as a discontinuity. -/
def breaks (adapter : Adapter σ) (action : AdapterAction) : Bool :=
  ((adapter.clock? action).bind reading?).any <|
    adapter.state.processed.tracker.breaks adapter.state.sessionFresh
      (adapter.state.powerMode = some .m1)

/-- How many discontinuities a run comes with. -/
def discontinuities (adapter : Adapter σ) : List AdapterAction → Nat
  | [] => 0
  | action :: rest =>
      (if adapter.breaks action then 1 else 0) + (adapter.act action).discontinuities rest

theorem clocks_cons (adapter : Adapter σ) (action : AdapterAction) (rest : List AdapterAction) :
    adapter.clocks (action :: rest) =
      (adapter.clock? action).toList ++ (adapter.act action).clocks rest := rfl

theorem clocks_concat (adapter : Adapter σ) (actions : List AdapterAction)
    (action : AdapterAction) :
    adapter.clocks (actions ++ [action]) =
      adapter.clocks actions ++ ((adapter.run actions).clock? action).toList := by
  induction actions generalizing adapter with
  | nil => exact List.append_nil _
  | cons first rest ih =>
      rw [List.cons_append, clocks_cons, ih, ← List.append_assoc, ← clocks_cons, run_cons]

/-! ### What an action makes of the clock -/

theorem act_clockStep (hcounted : adapter.state.processed.Counted)
    (hlasts : ¬adapter.Severs action) :
    ClockStep adapter.state.processed (adapter.act action).state.processed
      adapter.state.sessionFresh (adapter.state.powerMode = some .m1) (adapter.clock? action) := by
  cases hfragment : action.fragment? with
  | none =>
      have hkept : (adapter.act action).state.processed = adapter.state.processed :=
        (adapter.act_course action).processed_of_lasts hfragment hlasts
      rw [clock?_of_other hfragment, hkept]
      exact .keep rfl rfl rfl
  | some fragment =>
      rw [clock?_of_fragment hfragment, (processed_of_fragment hfragment adapter).1]
      exact add_clockStep hcounted fragment _ _

theorem act_counted (hcounted : adapter.state.processed.Counted) (action : AdapterAction) :
    (adapter.act action).state.processed.Counted := by
  by_cases hsevers : adapter.Severs action
  · have hcleared : (adapter.act action).state.processed = {} :=
      (adapter.act_course action).processed_of_severs hsevers
    rw [hcleared]
    exact ⟨fun _ => rfl, .inl rfl⟩
  · exact (act_clockStep hcounted hsevers).counted hcounted

theorem run_counted (hcounted : adapter.state.processed.Counted) (actions : List AdapterAction) :
    (adapter.run actions).state.processed.Counted := by
  induction actions generalizing adapter with
  | nil => exact hcounted
  | cons action rest ih => exact ih (act_counted hcounted action)

theorem Reachable.counted (hreachable : adapter.Reachable) :
    adapter.state.processed.Counted := by
  obtain ⟨config, surroundings, shared, actions, rfl⟩ := hreachable
  exact run_counted ⟨fun _ => rfl, .inl rfl⟩ actions

/-- The first clock of a session uses up the mark of it. -/
theorem act_timing (hgoes : ¬adapter.Interrupts action) :
    (adapter.act action).state.timing =
      (adapter.state.sessionFresh && (adapter.clock? action).isNone,
        adapter.state.powerMode) := by
  cases hfragment : action.fragment? with
  | none =>
      rw [clock?_of_other hfragment, timing_of_other hfragment hgoes, Option.isNone_none,
        Bool.and_true]
      rfl
  | some fragment =>
      obtain ⟨timestamp, hcollected, -⟩ := adapter.gained_of_fragment hfragment
      change (adapter.act action).standing.state.timing = _
      rw [hcollected, collect_eq, clock?_of_fragment hfragment]
      cases (adapter.standing.epochStep fragment).clockTaken <;> rfl

/-! ### What a run makes of it -/

theorem run_timing {actions : List AdapterAction}
    (hgoes : adapter.Throughout (fun adapter action => ¬adapter.Interrupts action) actions) :
    (adapter.run actions).state.timing =
      (adapter.state.sessionFresh && (adapter.clocks actions).isEmpty,
        adapter.state.powerMode) := by
  induction actions generalizing adapter with
  | nil => exact congrArg (·, adapter.state.powerMode) (Bool.and_true _).symm
  | cons action rest ih =>
      have hfirst := act_timing hgoes.1
      obtain ⟨hfresh, hpower⟩ := Prod.mk.inj hfirst
      rw [run_cons, ih hgoes.2, hfresh, hpower, clocks_cons]
      cases adapter.clock? action <;> simp

/-- As long as no clock is read, the tracker stays as it is. -/
theorem run_tracker {actions : List AdapterAction} (hcounted : adapter.state.processed.Counted)
    (hlasts : adapter.Throughout (fun adapter action => ¬adapter.Severs action) actions)
    (hunread : ∀ fragment ∈ adapter.clocks actions, fragment.reading? = none) :
    (adapter.run actions).state.processed.tracker = adapter.state.processed.tracker := by
  induction actions generalizing adapter with
  | nil => rfl
  | cons action rest ih =>
      obtain ⟨hfirst, hrest⟩ := List.forall_mem_append.mp hunread
      rw [run_cons, ih (act_counted hcounted action) hlasts.2 hrest]
      refine (act_clockStep hcounted hlasts.1).tracker_eq fun fragment hclock => ?_
      exact hfirst fragment (Option.mem_toList.mpr hclock)

theorem run_discontinuities {actions : List AdapterAction}
    (hcounted : adapter.state.processed.Counted)
    (hlasts : adapter.Throughout (fun adapter action => ¬adapter.Severs action) actions) :
    (adapter.run actions).state.processed.tracker.discontinuities =
      adapter.state.processed.tracker.discontinuities +
        .ofNat (adapter.discontinuities actions) := by
  induction actions generalizing adapter with
  | nil => exact (UInt32.add_zero _).symm
  | cons action rest ih =>
      have hfirst := (act_clockStep hcounted hlasts.1).tracker_discontinuities
      rw [run_cons, ih (act_counted hcounted action) hlasts.2, hfirst, UInt32.add_assoc,
        ← UInt32.ofNat_add]
      rfl

/-- An epoch that has a clock carries what has been counted up to the latest clock; nothing if that
has not been read. -/
theorem run_count {actions : List AdapterAction} (hcounted : adapter.state.processed.Counted)
    (hlasts : adapter.Throughout (fun adapter action => ¬adapter.Severs action) actions)
    (hseen : (adapter.run actions).state.processed.clockSeen = true) :
    (adapter.run actions).state.processed.count =
      match (adapter.clocks actions).getLast? with
      | none => adapter.state.processed.count
      | some fragment =>
          if fragment.reading?.isSome then
            (adapter.run actions).state.processed.tracker.discontinuities
          else 0 := by
  induction actions using List.reverseRecOn with
  | nil => rfl
  | append_singleton actions action ih =>
      obtain ⟨hearlier, hlast⟩ := throughout_concat.mp hlasts
      have hstep := act_clockStep (run_counted hcounted actions) hlast
      rw [run_concat] at hseen ⊢
      rw [clocks_concat]
      generalize (adapter.run actions).clock? action = clock at hstep ⊢
      cases hstep with
      | keep hkept htracker hcount =>
          rw [hcount, htracker, ih hearlier (hkept.symm.trans hseen), Option.toList_none,
            List.append_nil]
      | restart hunseen => exact absurd (hunseen.symm.trans hseen) (by decide)
      | read reading hreading _ _ hcount =>
          rw [hcount, Option.toList_some, List.getLast?_concat]
          dsimp only
          rw [hreading, Option.isSome_some, if_pos rfl]
      | miss hreading _ _ hcount =>
          rw [hcount, Option.toList_some, List.getLast?_concat]
          dsimp only
          rw [hreading, Option.isSome_none, if_neg Bool.false_ne_true]

/-! ### The counts that are told -/

theorem not_severs_of_not_interrupts (adapter : Adapter σ) (action : AdapterAction)
    (hgoes : ¬adapter.Interrupts action) : ¬adapter.Severs action :=
  fun hsevers => hgoes (.sever hsevers)

theorem not_severs_of_clock {fragment : MeasurementFragment}
    (hclock : adapter.clock? action = some fragment) : ¬adapter.Severs action := by
  intro hsevers
  cases (clock?_of_other hsevers.fragment?_eq).symm.trans hclock

/-- The first reading of a session finds the tracker as it was before the start. -/
theorem first_reading {start : AdapterAction} {between : List AdapterAction}
    {criteria : FixCriteria} {fragment : MeasurementFragment} {reading : UInt32 × UInt32}
    (hcounted : adapter.state.processed.Counted)
    (hstarts : adapter.starts? start = some criteria)
    (hok : adapter.result? start = some (.ok .done)) (hpower : criteria.powerMode ≠ some .m1)
    (hgoes : (adapter.act start).Throughout (fun adapter action => ¬adapter.Interrupts action)
      between)
    (hunread : ∀ earlier ∈ (adapter.act start).clocks between, earlier.reading? = none)
    (hclock : ((adapter.act start).run between).clock? action = some fragment)
    (hreading : fragment.reading? = some reading) :
    let tracker := adapter.state.processed.tracker
    let after := (((adapter.act start).run between).act action).state.processed
    after.count = after.tracker.discontinuities ∧
      after.tracker = tracker.observe reading.1 reading.2
        ((adapter.act start).clocks between).isEmpty false := by
  intro tracker after
  obtain ⟨-, hother, hlasts⟩ := starts?_eq hstarts
  have hstarted : (adapter.act start).state.processed = adapter.state.processed :=
    (adapter.act_course start).processed_of_lasts hother hlasts
  have hbegun := act_counted hcounted start
  have htracker := run_tracker hbegun (hgoes.imp not_severs_of_not_interrupts) hunread
  rw [hstarted] at htracker
  obtain ⟨hfresh, hmode⟩ := Prod.mk.inj (run_timing hgoes)
  obtain ⟨hmarked, hset⟩ := Prod.mk.inj (timing_of_started hstarts hok)
  rw [hmarked, Bool.true_and] at hfresh
  have hpartial : decide (((adapter.act start).run between).state.powerMode = some .m1) = false :=
    decide_eq_false (by rwa [hmode, hset])
  have hstep := act_clockStep (run_counted hbegun between) (not_severs_of_clock hclock)
  rw [hclock, hfresh, hpartial] at hstep
  cases hstep with
  | read found hfound hseen hobserved hcount =>
      cases hreading.symm.trans hfound
      exact ⟨hcount, hobserved.trans (by rw [htracker])⟩
  | miss hmissing => cases hreading.symm.trans hmissing

/-- What a later epoch of a connection carries, and what an earlier one can have carried. -/
theorem later_count {first second : AdapterAction} {between : List AdapterAction}
    {earlier later : ProcessedEpoch} (hcounted : adapter.state.processed.Counted)
    (hearlier : earlier ∈ adapter.epochsHanded first)
    (hlater : later ∈ ((adapter.act first).run between).epochsHanded second)
    (hlasts : (adapter.act first).Throughout (fun adapter action => ¬adapter.Severs action)
      (between ++ [second])) :
    let next := adapter.act first
    let since := between ++ [second]
    let tracked := next.state.processed.tracker.discontinuities
    (earlier.clock.discontinuities = 0 ∨ earlier.clock.discontinuities = tracked) ∧
      later.clock.discontinuities =
        match (next.clocks since).getLast? with
        | none => earlier.clock.discontinuities
        | some fragment =>
            if fragment.reading?.isSome then tracked + .ofNat (next.discontinuities since)
            else 0 := by
  intro next since tracked
  obtain ⟨-, rfl, -⟩ := epochsHanded_eq hearlier
  obtain ⟨-, rfl, -, hseen⟩ := epochsHanded_eq hlater
  have hbegun : next.state.processed.Counted := act_counted hcounted first
  rw [← run_concat] at hseen ⊢
  have hcount := run_count hbegun hlasts hseen
  rw [run_discontinuities hbegun hlasts] at hcount
  exact ⟨hbegun.hcount, hcount⟩

/-- The first reading of the clock in a session that is not at full power counts as a discontinuity
exactly if no epoch of the session has had a clock without one before, or the reading itself tells
of a discontinuity. Of two epochs of a connection, the later carries no lower count than the earlier
exactly if the earlier carries none, or there has been no clock since, or the latest one has been
read and the count has not run over. -/
theorem discontinuities_counted_iff (hreachable : adapter.Reachable) :
    (∀ (start action : AdapterAction) (between : List AdapterAction) (criteria : FixCriteria)
        (fragment : MeasurementFragment) (reading : UInt32 × UInt32),
      let tracker := adapter.state.processed.tracker
      let started := adapter.act start
      let after := ((started.run between).act action).state.processed
      adapter.starts? start = some criteria → adapter.result? start = some (.ok .done) →
        criteria.powerMode ≠ some .m1 →
        started.Throughout (fun adapter action => ¬adapter.Interrupts action) between →
        (∀ earlier ∈ started.clocks between, earlier.reading? = none) →
        (started.run between).clock? action = some fragment → fragment.reading? = some reading →
        after.count = after.tracker.discontinuities ∧
          (after.count = tracker.discontinuities + 1 ↔
            started.clocks between = [] ∨ reading.2 ≠ tracker.clockResets ∨
              reading.1 ≤ tracker.frameCount) ∧
          (after.count = tracker.discontinuities + 1 ∨ after.count = tracker.discontinuities)) ∧
      ∀ (first second : AdapterAction) (between : List AdapterAction)
        (earlier later : ProcessedEpoch),
        let next := adapter.act first
        let since := between ++ [second]
        earlier ∈ adapter.epochsHanded first → later ∈ (next.run between).epochsHanded second →
          next.Throughout (fun adapter action => ¬adapter.Severs action) since →
          (earlier.clock.discontinuities ≤ later.clock.discontinuities ↔
            earlier.clock.discontinuities = 0 ∨
              ∀ fragment ∈ (next.clocks since).getLast?, fragment.reading?.isSome ∧
                earlier.clock.discontinuities.toNat + next.discontinuities since % UInt32.size <
                  UInt32.size) := by
  have hcounted := hreachable.counted
  constructor
  · intro start action between criteria fragment reading
    dsimp only
    intro hstarts hok hpower hgoes hunread hclock hreading
    obtain ⟨hcount, hobserved⟩ :=
      first_reading hcounted hstarts hok hpower hgoes hunread hclock hreading
    have htold := adapter.state.processed.tracker.observe_discontinuities_eq_iff
      ((adapter.act start).clocks between).isEmpty reading
    rw [List.isEmpty_iff, ← hobserved] at htold
    exact ⟨hcount, by rwa [hcount]⟩
  · intro first second between earlier later
    dsimp only
    intro hearlier hlater hlasts
    obtain ⟨htracked, hcount⟩ := later_count hcounted hearlier hlater hlasts
    rw [hcount]
    by_cases hnone : earlier.clock.discontinuities = 0
    · rw [hnone]
      exact ⟨fun _ => .inl rfl, fun _ => UInt32.zero_le⟩
    · rw [← htracked.resolve_left hnone, or_iff_right hnone]
      -- Only the latest clock matters, and it counts for nothing unless it has been read.
      cases ((adapter.act first).clocks (between ++ [second])).getLast? with
      | none => simp
      | some fragment =>
          cases hreading : fragment.reading?.isSome with
          | true => simp [hreading, le_add_ofNat_iff]
          | false => simp [hreading, hnone]

/-- An adapter with a connection and nothing more. -/
def openedAdapter : Adapter ScriptedEngine :=
  obligedAfter [.execute (.connect (.single .niRequest))]

/-- A sequence of one fragment that comes with a reading. -/
def ofReading (frameCount : UInt32) : AdapterAction :=
  .handle (.indication (.measurement
    { MeasurementFragment.ofSatellite 1 1 5 with
      frameTime := some { frameCount }
      clockResets := some 0 }))

/-- Where every clock is read, the first one of a session is counted and the next has no less. -/
theorem discontinuities_counted_of_read :
    let started := openedAdapter.act (.execute (.startFix {}))
    (started.act (ofReading 1000)).state.processed.count =
        openedAdapter.state.processed.tracker.discontinuities + 1 ∧
      ∃ earlier later, started.epochsHanded (ofReading 1000) = [earlier] ∧
        (started.act (ofReading 1000)).epochsHanded (ofReading 2000) = [later] ∧
        earlier.clock.discontinuities ≤ later.clock.discontinuities := by
  have hreachable : openedAdapter.Reachable := ⟨_, _, _, _, rfl⟩
  have hok : openedAdapter.result? (.execute (.startFix {})) = some (.ok .done) := rfl
  have hcounted := (discontinuities_counted_iff hreachable).1 (.execute (.startFix {}))
    (ofReading 1000) [] {} _ (1000, 0) rfl hok (by decide) trivial (fun _ hmem => nomatch hmem)
    rfl rfl
  refine ⟨hcounted.2.1.mpr (.inl rfl), _, _, rfl, rfl, ?_⟩
  have hlasts : ((openedAdapter.act (.execute (.startFix {}))).act (ofReading 1000)).Throughout
      (fun adapter action => ¬adapter.Severs action) ([] ++ [ofReading 2000]) := ⟨nofun, trivial⟩
  refine ((discontinuities_counted_iff (hreachable.act _)).2 (ofReading 1000) (ofReading 2000) []
    _ _ (.head _) (.head _) hlasts).mpr (.inr fun fragment hmem => ?_)
  cases Option.mem_def.mp hmem
  exact ⟨rfl, by decide⟩

/-- The first clock of this session has not been read, so that the first reading is not counted. -/
theorem first_reading_uncounted :
    let start : AdapterAction := .execute (.startFix {})
    let unread : AdapterAction := .handle (.indication (.measurement (.ofSatellite 1 2 5)))
    let started := openedAdapter.act start
    openedAdapter.starts? start = some {} ∧ openedAdapter.result? start = some (.ok .done) ∧
      (started.clocks [unread]).map reading? = [none] ∧
      ((started.act unread).clock? (ofReading 2000)).map reading? = some (some (2000, 0)) ∧
      openedAdapter.state.processed.tracker.discontinuities = 0 ∧
      ((started.act unread).epochsHanded (ofReading 2000)).map (·.clock.discontinuities) = [0] :=
  ⟨rfl, rfl, rfl, rfl, rfl, rfl⟩

/-- An epoch whose clock has not been read carries less than the one before it. -/
example :
    let started := openedAdapter.act (.execute (.startFix {}))
    let unread : AdapterAction := .handle (.indication (.measurement (.ofSatellite 1 1 5)))
    (started.epochsHanded (ofReading 1000)).map (·.clock.discontinuities) = [1] ∧
      ((started.act (ofReading 1000)).epochsHanded unread).map (·.clock.discontinuities) = [0] :=
  ⟨rfl, rfl⟩

end Adapter

end GnssAdapter
