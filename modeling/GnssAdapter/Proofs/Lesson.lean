import GnssAdapter.Command
import GnssAdapter.Proofs.Reports

/-!
What an adapter finds out about its engine, and from what. Three things are kept when a connection
ends: whether the engine knows master rights, what it supports, and whether it knows the deletion of
service data. Only connecting, and the deletion of aiding data, ask for them and tell of them.
-/

namespace GnssAdapter

/-- A thing to be found out about the engine. -/
inductive Lesson where
  | mastery | capabilities | deletion
  deriving DecidableEq

def Lesson.Content : Lesson → Type
  | .mastery | .deletion => Bool
  | .capabilities => CapabilityStore

theorem Lesson.apart {lesson : Lesson} {taught : Option Lesson} (hnone : taught = none) :
    taught ≠ some lesson := by
  rw [hnone]
  nofun

theorem Lesson.other {lesson own : Lesson} {taught : Option Lesson} (hown : taught = some own)
    (hother : lesson ≠ own) : taught ≠ some lesson := by
  rw [hown]
  exact fun hsame => hother (Option.some.inj hsame).symm

/-! ### What belongs to a lesson -/

/-- Masters alone ask what belongs to mastery. -/
def Request.lesson? : Request → Option Lesson
  | .registerMasterClient _ | .queryAlwaysOn _ | .getSupportedFeatures => some .mastery
  | .setReportSubscription subscription =>
      if subscription.measurementReport.isSome then some .mastery else none
  | .deleteServiceData _ | .deleteAssistData _ => some .deletion
  | _ => none

def Callback.lesson? : Callback → Option Lesson
  | .featuresKnown => some .capabilities
  | _ => none

def Entry.lesson? : Entry → Option Lesson
  | .requested _ request _ | .posted _ request _ => request.lesson?
  | .notified callback => callback.lesson?
  | .published .. => some .capabilities
  | _ => none

def Adjustment.lesson? : Adjustment → Option Lesson
  | .implyMaster _ => some .mastery
  | .forgetServiceDeletion => some .deletion
  | _ => none

/-- The command may ask for a lesson. -/
def Command.teaches : Command → Lesson → Bool
  | .connect _, .mastery | .connect _, .capabilities | .deleteAidingData _, .deletion => true
  | _, _ => false

theorem Request.lesson?_ne_capabilities (request : Request) :
    request.lesson? ≠ some .capabilities := by
  cases request with
  | setReportSubscription subscription =>
      unfold lesson?
      cases subscription.measurementReport.isSome <;> simp
  | _ => simp [lesson?]

theorem Callback.lesson?_of_isRelay {callback : Callback} (hrelay : callback.isRelay = true) :
    callback.lesson? = none := by
  cases callback with
  | featuresKnown => cases hrelay
  | _ => rfl

/-! ### The store -/

namespace CapabilityStore

variable (store : CapabilityStore) (capabilities : EngineCapabilities)

theorem published_publish :
    (store.publish capabilities).1.published = store.published.or (some capabilities) := by
  unfold publish
  cases hstored : store.published with
  | none => rfl
  | some stored => exact hstored

theorem publish_accepted : (store.publish capabilities).2 = store.published.isNone := by
  unfold publish
  cases store.published <;> rfl

end CapabilityStore

namespace Standing

def learnt (standing : Standing) : (lesson : Lesson) → lesson.Content
  | .mastery => standing.state.masterUnsupported
  | .capabilities => standing.capabilities
  | .deletion => standing.state.serviceDeletionKnown

/-- Nothing that belongs to a lesson has happened. -/
structure Skips (lesson : Lesson) (before after : Standing) : Prop where
  hlearnt : after.learnt lesson = before.learnt lesson
  hentries : ∃ entries, after.history = entries ++ before.history ∧
    ∀ entry ∈ entries, entry.lesson? ≠ some lesson

namespace Skips

variable {lesson : Lesson} {before middle after : Standing}

theorem of_same (hlearnt : after.learnt lesson = before.learnt lesson)
    (hhistory : after.history = before.history) : Skips lesson before after :=
  ⟨hlearnt, [], hhistory, by simp⟩

theorem of_entry {entry : Entry} (hlearnt : after.learnt lesson = before.learnt lesson)
    (hhistory : after.history = entry :: before.history) (hother : entry.lesson? ≠ some lesson) :
    Skips lesson before after :=
  ⟨hlearnt, [entry], hhistory, by simpa using hother⟩

theorem refl (standing : Standing) : Skips lesson standing standing :=
  of_same rfl rfl

theorem trans (hfirst : Skips lesson before middle) (hsecond : Skips lesson middle after) :
    Skips lesson before after :=
  ⟨hsecond.hlearnt.trans hfirst.hlearnt, appended_trans hfirst.hentries hsecond.hentries⟩

theorem log (standing : Standing) {entry : Entry} (hother : entry.lesson? ≠ some lesson) :
    Skips lesson standing (standing.log entry) :=
  of_entry (by cases lesson <;> rfl) rfl hother

theorem adjust (standing : Standing) {adjustment : Adjustment}
    (hother : adjustment.lesson? ≠ some lesson) :
    Skips lesson standing (standing.adjust adjustment) := by
  refine of_same ?_ rfl
  cases adjustment with
  | implyMaster | forgetServiceDeletion =>
      cases lesson <;> first | rfl | exact absurd rfl hother
  | _ => cases lesson <;> rfl

theorem register (standing : Standing) (handle : Handle) (mask : Mask NativeEvent)
    (accepted : Bool) : Skips lesson standing (standing.register handle mask accepted) := by
  refine of_entry ?_ rfl (Lesson.apart rfl)
  cases accepted <;> cases lesson <;> rfl

theorem exchange (standing : Standing) {request : Request} (hother : request.lesson? ≠ some lesson)
    (answer : Option Answer) (accepted : Bool) :
    Skips lesson standing (standing.exchange request answer accepted) := by
  have hasked (handle : Handle) :
      Skips lesson standing (standing.log (.requested handle request answer)) :=
    log standing hother
  have hkept (watched : Standing) : Skips lesson watched (watched.keep request) :=
    of_same (by cases lesson <;> rfl) rfl
  have hexchanged := standing.exchanged request answer accepted
  generalize standing.exchange request answer accepted = after at hexchanged ⊢
  cases hexchanged with
  | closed => exact refl _
  | asked => exact hasked _
  | kept => exact (hasked _).trans (hkept _)
  | watched => exact ((hasked _).trans (register ..)).trans (hkept _)

theorem post (standing : Standing) {request : Request} (hother : request.lesson? ≠ some lesson)
    (result : Except ClientError Unit) : Skips lesson standing (standing.post request result) := by
  unfold Standing.post
  split
  · exact refl _
  · exact log standing hother

theorem postAll (standing : Standing) {sendings : List (Request × Except ClientError Unit)}
    (hother : ∀ sending ∈ sendings, sending.1.lesson? ≠ some lesson) :
    Skips lesson standing (standing.postAll sendings) := by
  induction sendings generalizing standing with
  | nil => exact refl _
  | cons sending rest ih =>
      have hfirst := post standing (hother sending (.head _)) sending.2
      exact hfirst.trans (ih _ fun other hmem => hother other (.tail _ hmem))

theorem subscribe (standing : Standing) (requested : Mask AdapterEvent) (accepted : Bool) :
    Skips lesson standing (standing.subscribe requested accepted) := by
  have hrequest (registered : Standing) : Skips lesson registered (registered.request requested) :=
    of_same (by cases lesson <;> rfl) rfl
  have hsubscribed := standing.subscribed requested accepted
  generalize standing.subscribe requested accepted = after at hsubscribed ⊢
  cases hsubscribed with
  | closed | unchanged => exact hrequest _
  | registered => exact (register ..).trans (hrequest _)

theorem reset (standing : Standing) : Skips lesson standing standing.reset :=
  of_same (by cases lesson <;> rfl) rfl

theorem connect (standing : Standing) (handle : Handle) :
    Skips lesson standing (standing.connect handle) :=
  of_entry (by cases lesson <;> rfl) rfl (Lesson.apart rfl)

theorem refuse (standing : Standing) (error : ClientError) :
    Skips lesson standing (standing.refuse error) :=
  (log standing (Lesson.apart rfl)).trans (reset _)

theorem disconnect (standing : Standing) (result : Except ClientError Unit) :
    Skips lesson standing (standing.disconnect result) := by
  unfold Standing.disconnect
  split
  · exact reset _
  · exact (log standing (Lesson.apart rfl)).trans (reset _)

theorem lose (standing : Standing) : Skips lesson standing standing.lose :=
  ((log standing (Lesson.apart rfl)).trans (reset _)).trans
    (log _ (Lesson.apart rfl))

/-- What is sent again may belong to a lesson if what has been kept does. -/
theorem turnOff (standing : Standing)
    (hother : ∀ request ∈ standing.replays, request.lesson? ≠ some lesson) (accepted : Bool)
    (results : List (Except ClientError Unit)) :
    Skips lesson standing (standing.turnOff accepted results) := by
  have harrived : Skips lesson standing standing.noticeOff :=
    (((log standing (Lesson.apart rfl)).trans
      (adjust _ (Lesson.apart rfl))).trans
        (log _ (Lesson.apart rfl))).trans
          (log _ (Lesson.apart rfl))
  have hsubscribed := harrived.trans
    (subscribe standing.noticeOff standing.state.requestedMask accepted)
  unfold Standing.turnOff
  generalize hafter : standing.noticeOff.subscribe standing.state.requestedMask accepted = after
    at hsubscribed ⊢
  have hreplays : after.replays = standing.replays := by
    rw [← hafter, subscribe_replays]
    rfl
  have hemptied : Skips lesson after { after with replays := [] } :=
    of_same (by cases lesson <;> rfl) rfl
  have hposted : Skips lesson { after with replays := [] }
      ({ after with replays := [] }.postAll (after.replays.zip results)) := by
    refine postAll _ fun sending hmem => hother sending.1 ?_
    rw [← hreplays]
    exact (List.of_mem_zip hmem).1
  unfold drain countDrained
  exact ((hsubscribed.trans hemptied).trans hposted).trans
    (of_same (by cases lesson <;> rfl) rfl)

end Skips

end Standing

end GnssAdapter
