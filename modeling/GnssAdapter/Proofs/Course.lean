import GnssAdapter.Proofs.Renewal

/-!
The course that an action takes, as far as the connection, the sentence types and the measurement
epochs go. Connections are opened and severed, sentence types are set, fragments are added, and a
session that is stopped drops its raw set. Nothing else touches any of them.
-/

namespace GnssAdapter

namespace Standing

/-- Within a session a fragment is merged into the raw set, and the last one hands it on. -/
def addRaw (standing : Standing) (fragment : MeasurementFragment) (timestamp : ApTimestamp) :
    Standing :=
  if standing.state.inSession then
    let (raw, finished) := standing.state.raw.add fragment
    let kept := standing.adjust (.keepRaw raw)
    match finished with
    | some set => kept.log (.notified (.rawSet (set.stamp timestamp)))
    | none => kept
  else standing

/-- What a fragment makes of the processed epoch. -/
def epochStep (standing : Standing) (fragment : MeasurementFragment) : EpochBuffer.Step :=
  standing.state.processed.add fragment standing.state.sessionFresh
    (standing.state.powerMode = some .m1)

def addProcessed (standing : Standing) (fragment : MeasurementFragment) : Standing :=
  let step := standing.epochStep fragment
  let kept := standing.adjust (.keepEpoch step.buffer step.clockTaken)
  match step.finished with
  | some (epoch, msInWeek) => kept.log (.notified (.processedEpoch epoch msInWeek))
  | none => kept

/-- A fragment arrives and feeds both the raw set and the processed epoch. -/
def collect (standing : Standing) (fragment : MeasurementFragment) (timestamp : ApTimestamp) :
    Standing :=
  ((standing.log (.arrived (.indication (.measurement fragment)))).addRaw fragment
    timestamp).addProcessed fragment

/-- The raw set that a fragment finishes. -/
def finishedSet? (standing : Standing) (fragment : MeasurementFragment) : Option RawSet :=
  if standing.state.inSession then (standing.state.raw.add fragment).2 else none

theorem addRaw_eq (standing : Standing) (fragment : MeasurementFragment)
    (timestamp : ApTimestamp) :
    standing.addRaw fragment timestamp =
      { standing with
        state := { standing.state with
          raw := if standing.state.inSession then (standing.state.raw.add fragment).1
            else standing.state.raw }
        history := ((standing.finishedSet? fragment).map fun set =>
          Entry.notified (.rawSet (set.stamp timestamp))).toList ++ standing.history } := by
  unfold addRaw finishedSet?
  split
  · dsimp only
    cases (standing.state.raw.add fragment).2 <;> rfl
  · rfl

theorem addProcessed_eq (standing : Standing) (fragment : MeasurementFragment) :
    standing.addProcessed fragment =
      { standing.adjust (.keepEpoch (standing.epochStep fragment).buffer
          (standing.epochStep fragment).clockTaken) with
        history := ((standing.epochStep fragment).finished.map fun (epoch, msInWeek) =>
          Entry.notified (.processedEpoch epoch msInWeek)).toList ++ standing.history } := by
  unfold addProcessed
  dsimp only
  cases (standing.epochStep fragment).finished <;> rfl

/-- What is heard and told when a fragment arrives, the latest first. -/
def collectEntries (standing : Standing) (fragment : MeasurementFragment)
    (timestamp : ApTimestamp) : List Entry :=
  ((standing.epochStep fragment).finished.map fun (epoch, msInWeek) =>
      Entry.notified (.processedEpoch epoch msInWeek)).toList ++
    ((standing.finishedSet? fragment).map fun set =>
      Entry.notified (.rawSet (set.stamp timestamp))).toList ++
    [.arrived (.indication (.measurement fragment))]

/-- The raw set and the processed epoch do not hang on each other. -/
theorem collect_eq (standing : Standing) (fragment : MeasurementFragment)
    (timestamp : ApTimestamp) :
    standing.collect fragment timestamp =
      { standing with
        state := { standing.state with
          raw := if standing.state.inSession then (standing.state.raw.add fragment).1
            else standing.state.raw
          processed := (standing.epochStep fragment).buffer
          sessionFresh :=
            standing.state.sessionFresh && !(standing.epochStep fragment).clockTaken }
        history := standing.collectEntries fragment timestamp ++ standing.history } := by
  unfold collect collectEntries
  rw [addProcessed_eq, addRaw_eq, List.append_assoc, List.append_assoc]
  rfl

/-- The transport is not asked for anything. -/
theorem mem_collectEntries {standing : Standing} {fragment : MeasurementFragment}
    {timestamp : ApTimestamp} {entry : Entry}
    (hmem : entry ∈ standing.collectEntries fragment timestamp) :
    (∃ event, entry = .arrived event) ∨ ∃ callback, entry = .notified callback := by
  unfold collectEntries at hmem
  simp only [List.mem_append, Option.mem_toList, Option.map_eq_some_iff, List.mem_singleton,
    Prod.exists] at hmem
  rcases hmem with (⟨epoch, msInWeek, -, rfl⟩ | ⟨set, -, rfl⟩) | rfl
  · exact .inr ⟨_, rfl⟩
  · exact .inr ⟨_, rfl⟩
  · exact .inl ⟨_, rfl⟩

/-- Sentence types are sent, and noted whatever comes of it. -/
def sendTypes (standing : Standing) (types : UInt32) (answer : Option Answer) (accepted : Bool) :
    Standing :=
  (standing.exchange (.setNmeaTypes types) answer accepted).adjust (.noteNmeaTypes types)

/-- A request may come with a registration. -/
theorem sendTypes_history (standing : Standing) (types : UInt32) (answer : Option Answer)
    (accepted : Bool) :
    ∃ entries, (standing.sendTypes types answer accepted).history = entries ++ standing.history ∧
      ∀ entry ∈ entries, entry.handsOn = false := by
  have hexchanged := standing.exchanged (.setNmeaTypes types) answer accepted
  change ∃ entries, (standing.exchange _ answer accepted).history = entries ++ standing.history ∧ _
  generalize standing.exchange (.setNmeaTypes types) answer accepted = after at hexchanged ⊢
  cases hexchanged with
  | closed => exact ⟨[], rfl, by simp⟩
  | asked | kept => exact ⟨[_], rfl, by simp [Entry.handsOn]⟩
  | watched => exact ⟨[_, _], rfl, by simp [Entry.handsOn]⟩

theorem sendTypes_epochs (standing : Standing) (types : UInt32) (answer : Option Answer)
    (accepted : Bool) :
    (standing.sendTypes types answer accepted).state.raw = standing.state.raw ∧
      (standing.sendTypes types answer accepted).state.processed = standing.state.processed := by
  change (standing.exchange _ answer accepted).state.raw = _ ∧
    (standing.exchange _ answer accepted).state.processed = _
  rw [exchange_state]
  exact ⟨rfl, rfl⟩

end Standing

/-- The fragment that an action delivers. -/
def AdapterAction.fragment? : AdapterAction → Option MeasurementFragment
  | .handle (.indication indication) => indication.fragment?
  | _ => none

theorem AdapterAction.eq_of_fragment? {action : AdapterAction} {fragment : MeasurementFragment}
    (hfragment : action.fragment? = some fragment) :
    action = .handle (.indication (.measurement fragment)) := by
  cases action with
  | handle event =>
      cases event with
      | indication indication => rw [Indication.eq_of_fragment? hfragment]
      | response | error => cases hfragment
  | _ => cases hfragment

/-- The fragments that some actions deliver. -/
def delivered (actions : List AdapterAction) : List MeasurementFragment :=
  actions.filterMap AdapterAction.fragment?

theorem delivered_append (first second : List AdapterAction) :
    delivered (first ++ second) = delivered first ++ delivered second :=
  List.filterMap_append

theorem delivered_cons (action : AdapterAction) (rest : List AdapterAction) :
    delivered (action :: rest) = delivered [action] ++ delivered rest :=
  delivered_append [action] rest

theorem delivered_singleton (action : AdapterAction) :
    delivered [action] = action.fragment?.toList := by
  unfold delivered
  cases hfragment : action.fragment? <;> simp [hfragment]

theorem take_append_take {α : Type} (first second : List α) (count : Nat) :
    (first.take count ++ second).take count = (first ++ second).take count := by
  rcases Nat.le_total first.length count with hfits | hover
  · rw [List.take_of_length_le hfits]
  · rw [List.take_append_of_le_length hover, List.take_append_of_le_length (by simp [hover]),
      List.take_take, Nat.min_self]

namespace MeasurementFragment

/-- A fragment with one satellite, measured in this epoch. -/
def ofSatellite (sequenceNumber sequenceLength : UInt8) (satelliteId : UInt16) :
    MeasurementFragment where
  sequenceNumber
  sequenceLength
  system := .gps
  measurements := some
    [{ satelliteId, status := .single .freshMeas, validStatus := .single .freshMeas }]

end MeasurementFragment

namespace AdapterM

open Standing

variable {σ : Type}

theorem addProcessed_standing (fragment : MeasurementFragment) (adapter : Adapter σ) :
    ((addProcessed fragment).run adapter).2.standing = adapter.standing.addProcessed fragment := by
  unfold addProcessed Standing.addProcessed epochStep
  rw [run_bind, run_get, Adapter.standing_state]
  dsimp only
  rw [run_bind]
  cases (adapter.state.processed.add fragment adapter.state.sessionFresh
      (decide (adapter.state.powerMode = some .m1))).finished <;> rfl

variable [Environment σ]

theorem addRaw_standing (fragment : MeasurementFragment) (adapter : Adapter σ) :
    ∃ timestamp, ((addRaw fragment).run adapter).2.standing =
      adapter.standing.addRaw fragment timestamp := by
  unfold addRaw Standing.addRaw
  rw [run_bind, run_get, Adapter.standing_state]
  by_cases hsession : adapter.state.inSession = true
  · simp only [if_pos hsession]
    generalize adapter.state.raw.add fragment = added
    obtain ⟨raw, finished⟩ := added
    cases finished with
    | none => exact ⟨{}, rfl⟩
    | some set =>
        exact ⟨(timestamp.run ((setState fun state => { state with raw }).run adapter).2).1, rfl⟩
  · simp only [if_neg hsession]
    exact ⟨{}, rfl⟩

theorem handleMeasurement_standing (fragment : MeasurementFragment) (adapter : Adapter σ) :
    ∃ timestamp,
      ((handleEvent (.indication (.measurement fragment))).run adapter).2.standing =
        adapter.standing.collect fragment timestamp := by
  let counted := ((do
    record (.arrived (.indication (.measurement fragment)))
    count fun counters => { counters with indications := counters.indications + 1 }
    observe (.indication .measurement) : AdapterM σ Unit).run adapter).2
  obtain ⟨timestamp, hraw⟩ := addRaw_standing fragment counted
  refine ⟨timestamp, ?_⟩
  change ((addProcessed fragment).run ((addRaw fragment).run counted).2).2.standing = _
  rw [addProcessed_standing, hraw]
  rfl

/-- A start asks for its operation mode first. If that fails it goes no further; else the power mode
is set and the engine told to start. -/
theorem startFix_cases (criteria : FixCriteria) (adapter : Adapter σ) :
    ∃ asked : Adapter σ, (adapter.standing.adjust .startSession).Retains asked.standing ∧
      asked.standing.state.timing = (true, adapter.state.powerMode) ∧
      ((startFix criteria).run adapter = (.error .generalFailure, asked) ∨
        (startFix criteria).run adapter =
          (query (.start criteria.start)).run
            ((setState fun state => { state with powerMode := criteria.powerMode }).run
              asked).2) := by
  let asking : AdapterM σ Answer :=
    resubscribe >>= fun _ => exchange (.setOperationMode criteria.mode.operation)
  have hplain : Plain asking := Plain.resubscribe.bind fun _ => Plain.exchange rfl
  let marked := ((setState fun state =>
    { state with inSession := true, sessionFresh := true }).run adapter).2
  refine ⟨(asking.run marked).2, hplain.hretains marked, hplain.htiming marked, ?_⟩
  let answer := (asking.run marked).1
  have hrun : (startFix criteria).run adapter =
      (if answer.isSuccess || answer.outcome = .timeout then do
          setState fun state => { state with powerMode := criteria.powerMode }
          query (.start criteria.start)
        else return .error .generalFailure : AdapterM σ _).run (asking.run marked).2 := rfl
  rw [hrun]
  by_cases hgoes : (answer.isSuccess || decide (answer.outcome = .timeout)) = true
  · rw [if_pos hgoes]
    exact .inr rfl
  · rw [if_neg hgoes]
    exact .inl rfl

theorem startFix_retains (criteria : FixCriteria) (adapter : Adapter σ) :
    adapter.standing.Retains ((startFix criteria).run adapter).2.standing := by
  have hmarked : adapter.standing.Retains (adapter.standing.adjust .startSession) :=
    .adjust adapter.standing .startSession rfl
  obtain ⟨asked, hasked, -, hstarted | hstarted⟩ := startFix_cases criteria adapter
  · rw [hstarted]
    exact hmarked.trans hasked
  · rw [hstarted]
    refine (hmarked.trans hasked).trans (Retains.trans ?_ ((Plain.query _).hretains _))
    exact .adjust asked.standing (.setPower criteria.powerMode) rfl

theorem changeCriteria_retains (criteria : FixCriteria) (adapter : Adapter σ) :
    adapter.standing.Retains ((changeCriteria criteria).run adapter).2.standing := by
  unfold changeCriteria
  rw [run_bind, run_get]
  split
  · exact startFix_retains criteria adapter
  · exact .refl _

theorem negotiate_retains {handle : Handle} {standing : Standing} (adapter : Adapter σ)
    (hconnected : adapter.standing = standing.connect handle) :
    (standing.connect handle).Retains (negotiate.run adapter).2.standing := by
  obtain ⟨claimed, probed, claimAccepted, probeAccepted, result, hintroduced⟩ :=
    introduce_standing adapter hconnected
  have hfirst : (standing.connect handle).Retains
      (probeMessages.run (probeMeasurement.run (claimMaster.run adapter).2).2).2.standing := by
    rw [hintroduced]
    exact .introduce ..
  unfold negotiate
  rw [run_bind, run_bind, run_bind]
  exact hfirst.trans ((Plain.publishFeatures _ _).hretains _)

/-- All that follows the arrival of most events is plain. -/
theorem handleEvent_plain {event : TransportEvent} (hquiet : event.isQuiet = true)
    (hother : (AdapterAction.handle event).fragment? = none) :
    ∃ operation : AdapterM σ Unit, Plain operation ∧
      handleEvent event = record (.arrived event) >>= fun _ => operation := by
  cases event with
  | indication indication => exact ⟨_, Plain.handleIndication hquiet hother, rfl⟩
  | response reply => exact ⟨_, Plain.handleReply reply, rfl⟩
  | error failure =>
      cases failure with
      | serviceUnavailable => cases hquiet
      | other => exact ⟨_, Plain.pure (), rfl⟩

theorem handleQuiet_retains {event : TransportEvent} (hquiet : event.isQuiet = true)
    (hother : (AdapterAction.handle event).fragment? = none) (adapter : Adapter σ) :
    adapter.standing.Retains ((handleEvent event).run adapter).2.standing := by
  have harrived : adapter.standing.Retains
      ((record (.arrived event)).run adapter).2.standing := .log adapter.standing rfl
  obtain ⟨operation, hplain, hevent⟩ := handleEvent_plain (σ := σ) hquiet hother
  rw [hevent, run_bind]
  exact harrived.trans (hplain.hretains _)

/-- Sentence types that are those last sent are not sent again. -/
theorem setNmeaTypes_cases (types : UInt32) (adapter : Adapter σ) :
    (adapter.state.nmeaTypes = some types ∧
        (setNmeaTypes types).run adapter = (.ok (), adapter)) ∨
      adapter.state.nmeaTypes ≠ some types ∧
        ∃ answer accepted,
          ((setNmeaTypes types).run adapter).2.standing =
              adapter.standing.sendTypes types answer accepted ∧
            (adapter.state.handle.isSome →
              ((setNmeaTypes types).run adapter).1 = (answer.getD (.error .timeout)).verdict) := by
  unfold setNmeaTypes
  rw [run_bind, run_get]
  by_cases hsame : adapter.state.nmeaTypes = some types
  · rw [if_pos hsame]
    exact .inl ⟨hsame, rfl⟩
  · rw [if_neg hsame]
    obtain ⟨answer, accepted, hstanding, hanswer⟩ :=
      exchange_standing (.setNmeaTypes types) adapter
    refine .inr ⟨hsame, answer, accepted, ?_, fun hopen => congrArg Answer.verdict (hanswer hopen)⟩
    unfold sendTypes
    rw [← hstanding]
    rfl

end AdapterM

namespace Adapter

open AdapterM Standing

variable {σ : Type} [Environment σ]

/-- What an action leaves of an adapter. Whatever does not open or sever a connection, set sentence
types, stop the session or bring a fragment is one case. -/
inductive Course (adapter : Adapter σ) : AdapterAction → Standing → Prop
  | retain {action : AdapterAction} {after : Standing} (hother : action.fragment? = none)
      (hgoes : action ≠ .execute .stopFix) (hlasts : ¬adapter.Severs action)
      (hretains : adapter.standing.Retains after) : Course adapter action after
  | open {events : Mask AdapterEvent} {after : Standing} (handle : Handle)
      (hclosed : adapter.state.handle = none)
      (hlasts : ¬adapter.Severs (.execute (.connect events)))
      (hretains : (adapter.standing.connect handle).Retains after) :
      Course adapter (.execute (.connect events)) after
  | sever {action : AdapterAction} {after : Standing} (hsevers : adapter.Severs action)
      (hstate : after.state = adapter.state.reset)
      (hhistory : Plainly adapter.history after.history) : Course adapter action after
  | stopFix {stopped : Standing} (hretains : adapter.standing.Retains stopped) :
      Course adapter (.execute .stopFix) (stopped.adjust (.keepRaw {}))
  | keepTypes {types : UInt32} (hsame : adapter.state.nmeaTypes = some types) :
      Course adapter (.execute (.setNmeaTypes types)) adapter.standing
  | sendTypes {types : UInt32} (hdiffers : adapter.state.nmeaTypes ≠ some types)
      (answer : Option Answer) (accepted : Bool) :
      Course adapter (.execute (.setNmeaTypes types))
        (adapter.standing.sendTypes types answer accepted)
  | collect (fragment : MeasurementFragment) (timestamp : ApTimestamp) :
      Course adapter (.handle (.indication (.measurement fragment)))
        (adapter.standing.collect fragment timestamp)

/-- Nothing but a fragment makes the adapter hand on measurements. -/
theorem Course.not_handsOn {adapter : Adapter σ} {action : AdapterAction} {after : Standing}
    (hcourse : adapter.Course action after) (hother : action.fragment? = none) :
    ∀ entry ∈ gained adapter.history after.history, entry.handsOn = false := by
  have hplain {earlier : List Entry} (hplainly : Plainly earlier after.history) :
      ∃ entries, after.history = entries ++ earlier ∧ ∀ entry ∈ entries, entry.handsOn = false := by
    obtain ⟨entries, hhistory, hentries⟩ := hplainly
    exact ⟨entries, hhistory, fun entry hmem => Entry.handsOn_of_isPlain (hentries entry hmem)⟩
  obtain ⟨entries, hhistory, hentries⟩ : ∃ entries, after.history = entries ++ adapter.history ∧
      ∀ entry ∈ entries, entry.handsOn = false := by
    cases hcourse with
    | retain _ _ _ hretains => exact hplain hretains.hhistory
    | «open» handle _ _ hretains =>
        refine appended_trans ⟨[.connected (.ok handle)], rfl, ?_⟩ (hplain hretains.hhistory)
        exact List.forall_mem_singleton.mpr rfl
    | sever _ _ hhistory => exact hplain hhistory
    | stopFix hretains => exact hplain hretains.hhistory
    | keepTypes => exact ⟨[], rfl, by simp⟩
    | sendTypes _ answer accepted => exact sendTypes_history _ _ answer accepted
    | collect => cases hother
  rw [hhistory, gained_append]
  exact hentries

theorem Severs.fragment?_eq {adapter : Adapter σ} {action : AdapterAction}
    (hsevers : adapter.Severs action) : action.fragment? = none := by
  cases hsevers <;> rfl

theorem Severs.course {adapter : Adapter σ} {action : AdapterAction}
    (hsevers : adapter.Severs action) : adapter.Course action (adapter.act action).standing := by
  obtain ⟨entries, hplain, hstanding⟩ := hsevers.standing
  rw [hstanding]
  exact .sever hsevers rfl ⟨entries, rfl, hplain⟩

theorem openConnection_course (events : Mask AdapterEvent) (adapter : Adapter σ) :
    adapter.Course (.execute (.connect events))
      (adapter.act (.execute (.connect events))).standing := by
  cases hresult : ((openConnection events).run adapter).1 with
  | error error => exact Severs.course (.refuse events error hresult)
  | ok =>
      have hlasts : ¬adapter.Severs (.execute (.connect events)) := by
        rintro ⟨⟩
        rename_i error hrefused
        cases hresult.symm.trans hrefused
      obtain ⟨hok, hopened⟩ := openConnection_ok hresult
      have hchanged := (Plain.changeEvents (events \
        (ensureConnected.run adapter).2.config.excludedEvents)).hretains
          (ensureConnected.run adapter).2
      change adapter.Course _ ((openConnection events).run adapter).2.standing
      rw [hopened]
      rcases ensureConnected_cases adapter with
        ⟨-, hkept⟩ | ⟨hclosed, ⟨error, hfailed, -⟩ |
          ⟨handle, connected, hconnected, ⟨-, hnegotiated⟩ | ⟨-, hdone⟩⟩⟩
      · rw [hkept] at hchanged ⊢
        exact .retain rfl (by simp) hlasts hchanged
      · cases hok.symm.trans hfailed
      · rw [hnegotiated] at hchanged ⊢
        refine .open handle hclosed hlasts (Retains.trans ?_ hchanged)
        exact negotiate_retains connected hconnected
      · rw [hdone] at hchanged ⊢
        rw [hconnected] at hchanged
        exact .open handle hclosed hlasts hchanged

theorem execute_course (command : Command) (adapter : Adapter σ) :
    adapter.Course (.execute command) (adapter.act (.execute command)).standing := by
  by_cases hplain : command.isPlain = true
  · refine .retain rfl ?_ ?_ ((Plain.execute hplain).hretains adapter)
    · rintro ⟨⟩
      cases hplain
    · rintro ⟨⟩ <;> cases hplain
  · cases command with
    | connect events => exact openConnection_course events adapter
    | disconnect => exact Severs.close.course
    | startFix criteria =>
        exact .retain rfl (by simp) (by rintro ⟨⟩) (startFix_retains criteria adapter)
    | changeCriteria criteria =>
        exact .retain rfl (by simp) (by rintro ⟨⟩) (changeCriteria_retains criteria adapter)
    | stopFix =>
        obtain ⟨accepted, hstanding⟩ := stopFix_standing adapter
        have hstopped : (adapter.act (.execute .stopFix)).standing = _ := hstanding
        rw [hstopped]
        exact .stopFix ((Retains.post ..).trans (.stop ..))
    | setNmeaTypes types =>
        have hcases := setNmeaTypes_cases types adapter
        have hacted : (adapter.act (.execute (.setNmeaTypes types))).standing =
            ((setNmeaTypes types).run adapter).2.standing := rfl
        rw [hacted]
        rcases hcases with ⟨hsame, hkept⟩ | ⟨hdiffers, answer, accepted, hsent, -⟩
        · rw [hkept]
          exact .keepTypes hsame
        · rw [hsent]
          exact .sendTypes hdiffers answer accepted
    | _ => exact absurd rfl hplain

theorem act_collect {action : AdapterAction} {fragment : MeasurementFragment}
    (hfragment : action.fragment? = some fragment) (adapter : Adapter σ) :
    ∃ timestamp, (adapter.act action).standing = adapter.standing.collect fragment timestamp := by
  rw [AdapterAction.eq_of_fragment? hfragment]
  exact handleMeasurement_standing fragment adapter

theorem gained_of_fragment {action : AdapterAction} {fragment : MeasurementFragment}
    (hfragment : action.fragment? = some fragment) (adapter : Adapter σ) :
    ∃ timestamp, (adapter.act action).standing = adapter.standing.collect fragment timestamp ∧
      gained adapter.history (adapter.act action).history =
        adapter.standing.collectEntries fragment timestamp := by
  obtain ⟨timestamp, hcollected⟩ := act_collect hfragment adapter
  refine ⟨timestamp, hcollected, ?_⟩
  rw [collect_eq] at hcollected
  have hhistory : (adapter.act action).history = _ := congrArg Standing.history hcollected
  rw [hhistory, standing_history, gained_append]

theorem handle_course (event : TransportEvent) (adapter : Adapter σ) :
    adapter.Course (.handle event) (adapter.act (.handle event)).standing := by
  cases hfragment : (AdapterAction.handle event).fragment? with
  | some fragment =>
      obtain ⟨timestamp, hcollected⟩ := act_collect hfragment adapter
      rw [hcollected, AdapterAction.eq_of_fragment? hfragment]
      exact .collect fragment timestamp
  | none =>
      by_cases hquiet : event.isQuiet = true
      · refine .retain hfragment (by simp) ?_ (handleQuiet_retains hquiet hfragment adapter)
        rintro ⟨⟩
        cases hquiet
      · rcases event.eq_of_not_isQuiet hquiet with rfl | rfl
        · obtain ⟨accepted, results, -, hstanding⟩ := handleEvent_turnOff adapter
          have hturned : (adapter.act (.handle (.indication (.engineState .off)))).standing = _ :=
            hstanding
          rw [hturned]
          exact .retain hfragment (by simp) (by rintro ⟨⟩) (.turnOff ..)
        · exact Severs.lose.course

theorem act_course (adapter : Adapter σ) (action : AdapterAction) :
    adapter.Course action (adapter.act action).standing := by
  cases action with
  | execute command => exact execute_course command adapter
  | handle event => exact handle_course event adapter
  | pickCommand | dropEvent | share =>
      exact .retain rfl (by simp) (by rintro ⟨⟩) ⟨rfl, rfl, .refl _⟩

/-- What comes with handing on is gained from fragments alone. -/
theorem filterMap_gained_of_other {α : Type} {adapter : Adapter σ} {action : AdapterAction}
    {pick : Entry → Option α} (hpick : ∀ entry : Entry, entry.handsOn = false → pick entry = none)
    (hother : action.fragment? = none) :
    (gained adapter.history (adapter.act action).history).filterMap pick = [] :=
  List.filterMap_eq_nil_iff.mpr fun entry hmem =>
    hpick entry ((adapter.act_course action).not_handsOn hother entry hmem)

end Adapter

end GnssAdapter
