import GnssAdapter.Proofs.Arrival
import GnssAdapter.Proofs.Assembly

/-!
Raw sets of whole sequences. Whatever has been left in the buffer, a sequence that arrives within a
session is handed on once, with its last fragment. The set has the first entries of the sequence, and
its header has of each kind what the latest fragment with it carried.
-/

namespace GnssAdapter

namespace MeasurementFragment

/-- The fragments are of one frame and of known systems. -/
def Uniform (frameCount : UInt32) (fragments : List MeasurementFragment) : Prop :=
  ∀ fragment ∈ fragments, fragment.frame = frameCount ∧ fragment.system ≠ .unknown

theorem Uniform.filter_isKnown {frameCount : UInt32} {fragments : List MeasurementFragment}
    (huniform : Uniform frameCount fragments) : fragments.filter isKnown = fragments :=
  List.filter_eq_self.mpr fun fragment hmem => decide_eq_true (huniform fragment hmem).2

/-- The fragments of one epoch, told by their numbers: the first one, the last one, and those in
between, which are neither. -/
structure RawSequence (fragments : List MeasurementFragment) : Prop where
  hfirst : ∃ first, fragments.head? = some first ∧ first.sequenceNumber = 1
  hlast : ∃ last, fragments.getLast? = some last ∧ last.sequenceNumber = last.sequenceLength
  hbetween : ∀ fragment ∈ fragments.tail.dropLast,
    fragment.sequenceNumber ≠ 1 ∧ fragment.sequenceNumber ≠ fragment.sequenceLength
  hframe : ∃ frameCount, ∀ fragment ∈ fragments, fragment.frame = frameCount
  hknown : ∀ fragment ∈ fragments, fragment.system ≠ .unknown

/-- A fragment that is one of one is a sequence by itself. -/
def SinglesApart (fragments : List MeasurementFragment) : Prop :=
  ∀ fragment ∈ fragments, fragment.sequenceNumber = 1 → fragment.sequenceLength = 1 →
    fragments.length = 1

theorem RawSequence.whole {fragments : List MeasurementFragment}
    (hsequence : RawSequence fragments) (hsingles : SinglesApart fragments) : Whole fragments := by
  refine .of_between hsequence.hfirst (fun fragment hfragment => ?_) (fun fragment hmem => ?_)
    fun fragment hmem hfirst hlast => ?_
  · obtain ⟨last, hends, hlast⟩ := hsequence.hlast
    cases hends.symm.trans hfragment
    exact isLast_iff.mpr hlast
  · obtain ⟨hnext, hopen⟩ := hsequence.hbetween fragment hmem
    exact ⟨hnext, Bool.eq_false_iff.mpr fun hends => hopen (isLast_iff.mp hends)⟩
  · exact hsingles fragment hmem hfirst ((isLast_iff.mp hlast).symm.trans hfirst)

theorem RawSequence.uniform {fragments : List MeasurementFragment}
    (hsequence : RawSequence fragments) : ∃ frameCount, Uniform frameCount fragments := by
  obtain ⟨frameCount, hframe⟩ := hsequence.hframe
  exact ⟨frameCount, fun fragment hmem => ⟨hframe fragment hmem, hsequence.hknown fragment hmem⟩⟩

/-! ### Headers -/

/-- What the latest fragment that carries it does carry. -/
def latest {α : Type} (carried : MeasurementFragment → Option α)
    (fragments : List MeasurementFragment) : Option α :=
  fragments.reverse.findSome? carried

theorem latest_concat {α : Type} (carried : MeasurementFragment → Option α)
    (fragments : List MeasurementFragment) (fragment : MeasurementFragment) :
    latest carried (fragments ++ [fragment]) = (carried fragment <|> latest carried fragments) := by
  unfold latest
  rw [List.reverse_concat, List.findSome?_cons]
  cases carried fragment <;> rfl

/-- The system time that the fragments of some systems tell, each part by the latest with it. -/
def timeOf (belongs : SatelliteSystem → Bool) (fragments : List MeasurementFragment) :
    EpochSystemTime :=
  let own := fragments.filter fun fragment => belongs fragment.system
  { time := latest systemTime own
    frameCount := latest (fun fragment => fragment.frameTime.map FrameTime.frameCount) own
    clockResets := latest clockResets own }

theorem timeOf_concat (belongs : SatelliteSystem → Bool) (fragments : List MeasurementFragment)
    (fragment : MeasurementFragment) :
    timeOf belongs (fragments ++ [fragment]) =
      if belongs fragment.system then (timeOf belongs fragments).merge fragment
      else timeOf belongs fragments := by
  unfold timeOf
  rw [List.filter_append]
  cases hbelongs : belongs fragment.system with
  | false => simp [hbelongs]
  | true =>
      have hone : [fragment].filter (fun fragment => belongs fragment.system) = [fragment] := by
        simp [hbelongs]
      dsimp only
      rw [hone, latest_concat, latest_concat, latest_concat]
      rfl

/-- What the latest fragments say of everything that a header is about. -/
def header (fragments : List MeasurementFragment) : RawHeader where
  clockFrequency := latest receiverClockFrequency fragments
  leapSeconds := latest RawHeader.trustedLeapSeconds fragments
  biases :=
    { gpsGlonass := latest (·.biases.gpsGlonass) fragments
      gpsBds := latest (·.biases.gpsBds) fragments
      gpsGalileo := latest (·.biases.gpsGalileo) fragments
      bdsGlonass := latest (·.biases.bdsGlonass) fragments
      galileoGlonass := latest (·.biases.galileoGlonass) fragments
      galileoBds := latest (·.biases.galileoBds) fragments
      galileoE1E5a := latest (·.biases.galileoE1E5a) fragments
      gpsL1L5 := latest (·.biases.gpsL1L5) fragments }
  gpsTime := timeOf (· = .gps) fragments
  galileoTime := timeOf (· = .galileo) fragments
  bdsTime := timeOf (fun system => system = .bds || system = .compass) fragments
  qzssTime := timeOf (· = .qzss) fragments
  glonassTime := (latest RawHeader.glonassTimeOf fragments).getD {}
  rtcMs := latest (fun fragment => fragment.frameTime.bind FrameTime.rtcMs) fragments

theorem header_concat (fragments : List MeasurementFragment) (fragment : MeasurementFragment) :
    header (fragments ++ [fragment]) = (header fragments).merge fragment := by
  have hglonass (other : Option EpochGlonassTime) :
      (RawHeader.glonassTimeOf fragment <|> other).getD {} =
        (RawHeader.glonassTimeOf fragment).getD (other.getD {}) := by
    cases RawHeader.glonassTimeOf fragment <;> rfl
  unfold header RawHeader.merge RawHeader.mergeSystemTime SystemBiases.orElse
  simp only [latest_concat, timeOf_concat, hglonass]
  cases fragment.system <;> rfl

/-! ### Entries -/

/-- The fresh measurements of named satellites in a fragment's list, each with its place there. -/
def usable (fragment : MeasurementFragment) : List (FragmentMeasurement × Nat) :=
  (fragment.measurements.getD []).zipIdx.filter fun (native, _) =>
    native.satelliteId != 0 && native.status.has .freshMeas

/-- The carrier phase uncertainty at a place of a fragment's list, if there are as many of them as
measurements. -/
def phaseUncertainty (fragment : MeasurementFragment) (place : Nat) : Option Float32 :=
  match fragment.carrierPhaseUncertainty with
  | some uncertainties =>
      if uncertainties.length = (fragment.measurements.getD []).length then uncertainties[place]?
      else none
  | none => none

theorem entries_eq (fragment : MeasurementFragment) :
    RawSet.entries fragment = fragment.usable.map fun (native, place) =>
      native.raw fragment (fragment.phaseUncertainty place) := by
  have hphase (place : Nat) :
      RawSet.phaseUncertainty? fragment (fragment.measurements.getD []) place =
        fragment.phaseUncertainty place := by
    unfold RawSet.phaseUncertainty? phaseUncertainty
    cases fragment.carrierPhaseUncertainty <;> rfl
  unfold RawSet.entries usable
  rw [← List.filterMap_eq_map, List.filterMap_filter]
  simp only [hphase]
  rfl

end MeasurementFragment

namespace RawSet

open MeasurementFragment

/-- What is merged is the latest of everything. -/
theorem assemble_header (isNhz : Bool) {frameCount : UInt32} {fragments : List MeasurementFragment}
    (huniform : Uniform frameCount fragments) :
    (assemble isNhz fragments).header = MeasurementFragment.header fragments := by
  unfold assemble
  rw [huniform.filter_isKnown]
  clear huniform
  induction fragments using List.reverseRecOn with
  | nil => rfl
  | append_singleton fragments fragment ih =>
      rw [List.foldl_append, header_concat, ← ih]
      rfl

theorem foldl_merge_isNhz (fragments : List MeasurementFragment) (set : RawSet) :
    (fragments.foldl merge set).isNhz = set.isNhz := by
  induction fragments generalizing set with
  | nil => rfl
  | cons fragment rest ih => exact ih (set.merge fragment)

end RawSet

namespace RawBuffer

open MeasurementFragment

variable {buffer : RawBuffer} {first fragment : MeasurementFragment}
  {seen : List MeasurementFragment}

/-- A set that holds the beginning of a sequence takes in the next fragment of it; a first fragment
makes the beginning. -/
theorem prepare_next (hbegins : Begins first (seen ++ [fragment]))
    (hframe : fragment.frame = first.frame)
    (hheld : seen ≠ [] → buffer = ⟨first.frame, assemble (first.isNhz.getD false) seen⟩) :
    buffer.prepare fragment = ⟨first.frame, assemble (first.isNhz.getD false) seen⟩ := by
  unfold prepare
  obtain ⟨rfl, rfl⟩ | ⟨hsome, hnext⟩ := hbegins.next
  · rw [if_pos (.inl hbegins.hnumber)]
    rfl
  · rw [hheld hsome, if_neg]
    rintro (hfirst | hdiffers)
    · exact hnext hfirst
    · exact hdiffers hframe

theorem add_next (hbegins : Begins first (seen ++ [fragment]))
    (huniform : Uniform first.frame (seen ++ [fragment]))
    (hheld : seen ≠ [] → buffer = ⟨first.frame, assemble (first.isNhz.getD false) seen⟩) :
    let set := assemble (first.isNhz.getD false) (seen ++ [fragment])
    buffer.add fragment =
      if fragment.isLast then (⟨first.frame, {}⟩, some set) else (⟨first.frame, set⟩, none) := by
  intro set
  obtain ⟨hframe, hknown⟩ := huniform fragment (by simp)
  have hmerged : (assemble (first.isNhz.getD false) seen).merge fragment = set := by
    simp [set, assemble, isKnown, hknown, List.filter_append]
  unfold add
  rw [prepare_next hbegins hframe hheld, if_neg hknown]
  dsimp only
  rw [hmerged]

end RawBuffer

namespace Adapter

open Standing MeasurementFragment

variable {σ : Type} [Environment σ] {adapter : Adapter σ} {action : AdapterAction}

/-- The beginning of a sequence has arrived within a session, and the raw set holds what it has
brought. -/
structure HoldsRaw (adapter : Adapter σ) (first : MeasurementFragment)
    (seen : List MeasurementFragment) : Prop where
  hsession : adapter.state.inSession = true
  hraw : seen ≠ [] →
    adapter.state.raw = ⟨first.frame, assemble (first.isNhz.getD false) seen⟩

namespace HoldsRaw

variable {first fragment : MeasurementFragment} {seen : List MeasurementFragment}

/-- What comes in between changes nothing of it. -/
theorem act_of_other (hholds : adapter.HoldsRaw first seen) (hkeeps : ¬adapter.DropsRaw action)
    (hother : action.fragment? = none) : (adapter.act action).HoldsRaw first seen := by
  have hraw : (adapter.act action).state.raw = adapter.state.raw :=
    (adapter.act_course action).raw_of_keeps hother hkeeps
  refine ⟨inSession_of_keeps hholds.hsession hkeeps, fun hsome => ?_⟩
  rw [hraw]
  exact hholds.hraw hsome

/-- A fragment that is not the last of its sequence is kept with those before it. -/
theorem act_of_next (hholds : adapter.HoldsRaw first seen)
    (hbegins : Begins first (seen ++ [fragment]))
    (huniform : Uniform first.frame (seen ++ [fragment]))
    (hfragment : action.fragment? = some fragment) (hbefore : fragment.isLast = false) :
    (adapter.act action).HoldsRaw first (seen ++ [fragment]) ∧ adapter.setsHanded action = [] := by
  have hadded := RawBuffer.add_next hbegins huniform hholds.hraw
  rw [hbefore] at hadded
  obtain ⟨hraw, timestamp, hsets⟩ := raw_of_fragment hfragment adapter
  refine ⟨⟨?_, fun _ => ?_⟩, ?_⟩
  · exact inSession_of_keeps hholds.hsession
      fun hdrops => nomatch hdrops.fragment?_eq.symm.trans hfragment
  · rw [hraw, if_pos hholds.hsession, hadded]
    rfl
  · rw [hsets]
    unfold finishedSet?
    rw [standing_state, if_pos hholds.hsession, hadded]
    rfl

/-- The last fragment of a sequence hands on the set, and leaves none. -/
theorem act_of_last (hholds : adapter.HoldsRaw first seen)
    (hbegins : Begins first (seen ++ [fragment]))
    (huniform : Uniform first.frame (seen ++ [fragment]))
    (hfragment : action.fragment? = some fragment) (hlast : fragment.isLast = true) :
    (∃ timestamp, adapter.setsHanded action =
        [(assemble (first.isNhz.getD false) (seen ++ [fragment])).stamp timestamp]) ∧
      (adapter.act action).state.raw.set = {} := by
  have hadded := RawBuffer.add_next hbegins huniform hholds.hraw
  rw [hlast] at hadded
  obtain ⟨hraw, timestamp, hsets⟩ := raw_of_fragment hfragment adapter
  refine ⟨⟨timestamp, ?_⟩, ?_⟩
  · rw [hsets]
    unfold finishedSet?
    rw [standing_state, if_pos hholds.hsession, hadded]
    rfl
  · rw [hraw, if_pos hholds.hsession, hadded]
    rfl

end HoldsRaw

/-- Until its last fragment comes, a sequence is gathered and no set is handed on. -/
theorem holdsRaw_run {first : MeasurementFragment} (hsession : adapter.state.inSession = true)
    {actions : List AdapterAction}
    (hkeeps : adapter.Throughout (fun adapter action => ¬adapter.DropsRaw action) actions)
    (hbegins : Begins first (delivered actions))
    (huniform : Uniform first.frame (delivered actions))
    (hbefore : ∀ fragment ∈ delivered actions, fragment.isLast = false) :
    (adapter.run actions).HoldsRaw first (delivered actions) ∧
      adapter.found Entry.rawSet? actions = [] := by
  refine gather_run Entry.rawSet?_of_not_handsOn
    (fun fragments => Begins first fragments ∧ Uniform first.frame fragments ∧
      ∀ fragment ∈ fragments, fragment.isLast = false)
    (fun actions => (adapter.run actions).HoldsRaw first (delivered actions))
    ?_ ⟨hsession, fun hnone => absurd rfl hnone⟩ ?_ ?_ hkeeps ⟨hbegins, huniform, hbefore⟩
  · rintro earlier later ⟨hstarts, hsame, hopen⟩
    exact ⟨hstarts.append_left, fun fragment hmem => hsame fragment (List.mem_append_left _ hmem),
      fun fragment hmem => hopen fragment (List.mem_append_left _ hmem)⟩
  · intro actions action hholds hkeep hother
    rw [run_concat, delivered_concat_of_other hother]
    exact hholds.act_of_other hkeep hother
  · rintro actions action fragment hholds ⟨hstarts, hsame, hopen⟩ hfragment
    rw [run_concat, delivered_concat hfragment]
    exact hholds.act_of_next hstarts hsame hfragment (hopen fragment (by simp))

/-- A whole sequence is handed on with its last fragment, and leaves nothing in the buffer. -/
theorem found_rawSet?_of_whole (hsession : adapter.state.inSession = true)
    {opening : List AdapterAction} {last : MeasurementFragment}
    (hkeeps : adapter.Throughout (fun adapter action => ¬adapter.DropsRaw action) opening)
    (hfragment : action.fragment? = some last) (hwhole : Whole (delivered opening ++ [last]))
    {frameCount : UInt32} (huniform : Uniform frameCount (delivered opening ++ [last])) :
    adapter.found Entry.rawSet? opening = [] ∧
      (∃ first timestamp, (delivered opening ++ [last]).head? = some first ∧
        (adapter.run opening).found Entry.rawSet? [action] =
          [(assemble (first.isNhz.getD false) (delivered opening ++ [last])).stamp timestamp]) ∧
      (adapter.run (opening ++ [action])).state.raw.set = {} := by
  obtain ⟨first, hhead, hbegins, hbefore, hlast⟩ := hwhole.of_concat
  obtain rfl := (huniform first (List.mem_of_head? hhead)).1
  obtain ⟨hholds, hnothing⟩ := holdsRaw_run hsession hkeeps hbegins.append_left
    (fun fragment hmem => huniform fragment (List.mem_append_left _ hmem)) hbefore
  obtain ⟨⟨timestamp, hset⟩, hempty⟩ := hholds.act_of_last hbegins huniform hfragment hlast
  refine ⟨hnothing, ⟨first, timestamp, hhead, hset⟩, ?_⟩
  rwa [run_concat]

/-- A sequence that arrives within a session is handed on as one raw set, with its last fragment.
Neither what has been left in the buffer nor what happens meanwhile tells on the set, as long as the
session lasts. Nothing is left in the buffer. -/
theorem raw_sequence_assembled (hsession : adapter.state.inSession = true)
    {opening : List AdapterAction}
    (hkeeps : adapter.Throughout (fun adapter action => ¬adapter.DropsRaw action) opening)
    (hdelivers : action.fragment?.isSome = true)
    (hsequence : RawSequence (delivered (opening ++ [action])))
    (hsingles : SinglesApart (delivered (opening ++ [action]))) :
    let fragments := delivered (opening ++ [action])
    adapter.found Entry.rawSet? opening = [] ∧
      (∃ set timestamp, (adapter.run opening).found Entry.rawSet? [action] = [set] ∧
        set.measurements =
          (fragments.flatMap fun fragment => fragment.usable.map fun (native, place) =>
            native.raw fragment (fragment.phaseUncertainty place)).take 128 ∧
        set.header = { header fragments with apTimestamp := some timestamp } ∧
        set.isNhz = (fragments.head?.bind isNhz).getD false) ∧
      (adapter.run (opening ++ [action])).state.raw.set = {} := by
  intro fragments
  obtain ⟨last, hfragment⟩ := Option.isSome_iff_exists.mp hdelivers
  have hends : fragments = delivered opening ++ [last] := delivered_concat hfragment
  have hwhole := hsequence.whole hsingles
  obtain ⟨frameCount, huniform⟩ := hsequence.uniform
  rw [show delivered (opening ++ [action]) = _ from hends] at hwhole huniform
  obtain ⟨hnothing, ⟨first, timestamp, hhead, hset⟩, hempty⟩ :=
    found_rawSet?_of_whole hsession hkeeps hfragment hwhole huniform
  rw [← hends] at hset hhead huniform
  refine ⟨hnothing, ⟨_, timestamp, hset, ?_, ?_, ?_⟩, hempty⟩
  · simp only [← entries_eq]
    exact (RawSet.assemble_measurements ..).trans (by rw [huniform.filter_isKnown]; rfl)
  · exact congrArg (fun header : RawHeader => { header with apTimestamp := some timestamp })
      (RawSet.assemble_header _ huniform)
  · rw [hhead]
    exact RawSet.foldl_merge_isNhz ..

theorem not_dropsRaw_of_fragment (hdelivers : action.fragment?.isSome = true) :
    ¬adapter.DropsRaw action := by
  intro hdrops
  rw [hdrops.fragment?_eq] at hdelivers
  cases hdelivers

theorem not_dropsRaw_of_failure : ¬adapter.DropsRaw (.handle (.error .other)) := by
  rintro (hstops | hsevers)
  · cases hstops
  · exact not_severs_of_failure hsevers

/-- Two fragments with an event between them. -/
theorem raw_sequence_assembled_of_two :
    let opening : List AdapterAction :=
      [.handle (.indication (.measurement (.ofSatellite 1 2 5))), .handle (.error .other)]
    let action : AdapterAction := .handle (.indication (.measurement (.ofSatellite 2 2 6)))
    startedAdapter.state.inSession = true ∧ startedAdapter.found Entry.rawSet? opening = [] ∧
      ∃ set, (startedAdapter.run opening).found Entry.rawSet? [action] = [set] ∧
        set.measurements.map RawMeasurement.satelliteId = [5, 6] := by
  intro opening action
  have hdelivered : delivered (opening ++ [action]) = [.ofSatellite 1 2 5, .ofSatellite 2 2 6] :=
    rfl
  have hsession : startedAdapter.state.inSession = true := rfl
  have hsequence : RawSequence (delivered (opening ++ [action])) := by
    rw [hdelivered]
    refine ⟨⟨_, rfl, rfl⟩, ⟨_, rfl, rfl⟩, ?_, ⟨0, ?_⟩, ?_⟩ <;> decide
  have hsingles : SinglesApart (delivered (opening ++ [action])) := by
    rw [hdelivered]
    unfold SinglesApart
    decide
  have hkeeps : startedAdapter.Throughout (fun adapter action => ¬adapter.DropsRaw action)
      opening := ⟨not_dropsRaw_of_fragment rfl, not_dropsRaw_of_failure, trivial⟩
  have hdelivers : action.fragment?.isSome = true := rfl
  obtain ⟨hnothing, ⟨set, -, hset, hmeasurements, -⟩, -⟩ :=
    raw_sequence_assembled hsession hkeeps hdelivers hsequence hsingles
  refine ⟨hsession, hnothing, set, hset, ?_⟩
  rw [hmeasurements, hdelivered]
  rfl

/-- Two fragments that are one of one each make up a set of their own, though the first has the number
of a first fragment and the second that of a last one. -/
theorem raw_singles_assembled_apart :
    let opening : List AdapterAction :=
      [.handle (.indication (.measurement (.ofSatellite 1 1 5)))]
    let action : AdapterAction := .handle (.indication (.measurement (.ofSatellite 1 1 6)))
    startedAdapter.state.inSession = true ∧ RawSequence (delivered (opening ++ [action])) ∧
      startedAdapter.Throughout (fun adapter action => ¬adapter.DropsRaw action) opening ∧
      ∃ earlier later, startedAdapter.found Entry.rawSet? opening = [earlier] ∧
        (startedAdapter.run opening).found Entry.rawSet? [action] = [later] ∧
        earlier.measurements.map RawMeasurement.satelliteId = [5] ∧
        later.measurements.map RawMeasurement.satelliteId = [6] := by
  intro opening action
  have hdelivered : delivered (opening ++ [action]) = [.ofSatellite 1 1 5, .ofSatellite 1 1 6] :=
    rfl
  refine ⟨rfl, ?_, ⟨not_dropsRaw_of_fragment rfl, trivial⟩, _, _, rfl, rfl, rfl, rfl⟩
  rw [hdelivered]
  refine ⟨⟨_, rfl, rfl⟩, ⟨_, rfl, rfl⟩, ?_, ⟨0, ?_⟩, ?_⟩ <;> decide

end Adapter

end GnssAdapter
