import GnssAdapter.Proofs.History
import GnssAdapter.Proofs.Operation

/-!
What stays as it is most of the time: the sentence types last sent and the measurement epochs being
assembled. Only a few operations touch them or say anything of them, and what is plain does not.
-/

namespace GnssAdapter

def Request.isPlain : Request → Bool
  | .setNmeaTypes _ => false
  | _ => true

def Callback.isPlain : Callback → Bool
  | .rawSet _ | .processedEpoch .. => false
  | _ => true

/-- The entry neither opens a connection nor sets sentence types nor hands on measurements. -/
def Entry.isPlain : Entry → Bool
  | .requested _ request _ => request.isPlain
  | .notified callback => callback.isPlain
  | entry => !entry.opensConnection

/-- The entry hands on measurements. -/
def Entry.handsOn : Entry → Bool
  | .notified callback => !callback.isPlain
  | _ => false

theorem Entry.handsOn_of_isPlain {entry : Entry} (hplain : entry.isPlain = true) :
    entry.handsOn = false := by
  cases entry with
  | notified callback => exact congrArg (!·) hplain
  | _ => rfl

theorem Entry.not_opensConnection_of_isPlain {entry : Entry} (hplain : entry.isPlain = true) :
    entry.opensConnection = false := by
  cases entry with
  | connected result =>
      cases result with
      | ok handle => cases hplain
      | error error => rfl
  | _ => rfl

def Adjustment.isPlain : Adjustment → Bool
  | .noteNmeaTypes _ | .keepRaw _ | .keepEpoch .. => false
  | _ => true

/-- The sentence types last sent and the measurement epochs being assembled. -/
def State.collected (state : State) : Option UInt32 × RawBuffer × EpochBuffer :=
  (state.nmeaTypes, state.raw, state.processed)

/-- What the next clock is judged by: whether the session has had one, and the power mode. -/
def State.timing (state : State) : Bool × Option PowerMode :=
  (state.sessionFresh, state.powerMode)

theorem Adjustment.apply_collected {adjustment : Adjustment} (hplain : adjustment.isPlain = true)
    (state : State) : (adjustment.apply state).collected = state.collected := by
  cases adjustment with
  | noteNmeaTypes | keepRaw | keepEpoch => cases hplain
  | _ => rfl

/-- The history has gained nothing but plain entries. -/
def Plainly (earlier later : List Entry) : Prop :=
  ∃ entries, later = entries ++ earlier ∧ ∀ entry ∈ entries, entry.isPlain = true

namespace Plainly

variable {earlier middle later : List Entry}

theorem refl (history : List Entry) : Plainly history history :=
  ⟨[], rfl, fun _ hmem => nomatch hmem⟩

theorem trans (hfirst : Plainly earlier middle) (hsecond : Plainly middle later) :
    Plainly earlier later :=
  appended_trans hfirst hsecond

theorem cons {entry : Entry} (hplain : entry.isPlain = true) (history : List Entry) :
    Plainly history (entry :: history) :=
  ⟨[entry], rfl, fun _ hmem => List.mem_singleton.mp hmem ▸ hplain⟩

/-- What looks at other entries only finds of the latest connection what it found before. -/
theorem findSome?_eq {α : Type} (hplainly : Plainly earlier later) {pick : Entry → Option α}
    (hother : ∀ entry : Entry, entry.isPlain = true → pick entry = none) :
    (connectionOf later).findSome? pick = (connectionOf earlier).findSome? pick := by
  obtain ⟨entries, rfl, hplain⟩ := hplainly
  exact findSome?_connectionOf_append earlier fun entry hmem =>
    ⟨Entry.not_opensConnection_of_isPlain (hplain entry hmem), hother entry (hplain entry hmem)⟩

end Plainly

namespace Standing

/-- The connection and what is collected have been left alone, and nothing has been said of them. -/
structure Retains (before after : Standing) : Prop where
  hhandle : after.state.handle = before.state.handle
  hcollected : after.state.collected = before.state.collected
  hhistory : Plainly before.history after.history

namespace Retains

variable {before middle after standing : Standing}

theorem refl (standing : Standing) : Retains standing standing :=
  ⟨rfl, rfl, .refl _⟩

theorem trans (hfirst : Retains before middle) (hsecond : Retains middle after) :
    Retains before after where
  hhandle := hsecond.hhandle.trans hfirst.hhandle
  hcollected := hsecond.hcollected.trans hfirst.hcollected
  hhistory := hfirst.hhistory.trans hsecond.hhistory

theorem of_same (hretains : Retains before middle) (hstate : after.state = middle.state)
    (hhistory : after.history = middle.history) : Retains before after where
  hhandle := by rw [hstate, hretains.hhandle]
  hcollected := by rw [hstate, hretains.hcollected]
  hhistory := by rw [hhistory]; exact hretains.hhistory

theorem log (standing : Standing) {entry : Entry} (hplain : entry.isPlain = true) :
    Retains standing (standing.log entry) :=
  ⟨rfl, rfl, .cons hplain _⟩

theorem adjust (standing : Standing) (adjustment : Adjustment)
    (hplain : adjustment.isPlain = true) : Retains standing (standing.adjust adjustment) :=
  ⟨adjust_handle .., Adjustment.apply_collected hplain _, .refl _⟩

theorem register (standing : Standing) (handle : Handle) (mask : Mask NativeEvent)
    (accepted : Bool) : Retains standing (standing.register handle mask accepted) where
  hhandle := register_handle ..
  hcollected := by
    rw [register_state]
    rfl
  hhistory := .cons rfl _

theorem exchange (standing : Standing) {request : Request} (hplain : request.isPlain = true)
    (answer : Option Answer) (accepted : Bool) :
    Retains standing (standing.exchange request answer accepted) := by
  have hasked (handle : Handle) :
      Retains standing (standing.log (.requested handle request answer)) :=
    log standing hplain
  have hexchanged := standing.exchanged request answer accepted
  generalize standing.exchange request answer accepted = after at hexchanged ⊢
  cases hexchanged with
  | closed => exact refl standing
  | asked => exact hasked _
  | kept => exact (hasked _).of_same rfl rfl
  | @watched handle => exact ((hasked handle).trans (register _ handle _ accepted)).of_same rfl rfl

theorem post (standing : Standing) (request : Request) (result : Except ClientError Unit) :
    Retains standing (standing.post request result) := by
  unfold Standing.post
  split
  · exact refl standing
  · exact log standing rfl

theorem subscribe (standing : Standing) (requested : Mask AdapterEvent) (accepted : Bool) :
    Retains standing (standing.subscribe requested accepted) := by
  have hsubscribed := standing.subscribed requested accepted
  generalize standing.subscribe requested accepted = after at hsubscribed ⊢
  cases hsubscribed with
  | closed | unchanged => exact ⟨rfl, rfl, .refl _⟩
  | @registered handle =>
      have hregistered := register standing handle (standing.nativeFor requested) accepted
      exact ⟨hregistered.hhandle, hregistered.hcollected, hregistered.hhistory⟩

theorem stop (standing : Standing) (accepted : Bool) :
    Retains standing (standing.stop accepted) := by
  have hstopped := adjust standing .stopSession rfl
  unfold Standing.stop
  split
  · exact hstopped
  · exact hstopped.trans (subscribe ..)

theorem postAll (standing : Standing) (sendings : List (Request × Except ClientError Unit)) :
    Retains standing (standing.postAll sendings) := by
  induction sendings generalizing standing with
  | nil => exact refl standing
  | cons sending rest ih => exact (post standing sending.1 sending.2).trans (ih _)

theorem drain (standing : Standing) (results : List (Except ClientError Unit)) :
    Retains standing (standing.drain results) := by
  have hemptied : Retains standing { standing with replays := [] } := ⟨rfl, rfl, .refl _⟩
  exact (hemptied.trans (postAll _ (standing.replays.zip results))).of_same rfl rfl

theorem turnOff (standing : Standing) (accepted : Bool) (results : List (Except ClientError Unit)) :
    Retains standing (standing.turnOff accepted results) := by
  have harrived : Retains standing
      (standing.log (.arrived (.indication (.engineState .off)))) := log standing rfl
  have hnoticed : Retains standing standing.noticeOff :=
    ((harrived.trans (adjust _ (.turn false) rfl)).trans (log _ rfl)).trans (log _ rfl)
  have hsubscribed := hnoticed.trans (subscribe _ standing.state.requestedMask accepted)
  exact hsubscribed.trans (drain _ results)

theorem mark (standing : Standing) (answer : Option Answer) (accepted : Bool) :
    Retains standing (standing.mark answer accepted) := by
  have hasked : Retains standing (standing.exchange measurementProbe answer accepted) :=
    exchange standing rfl answer accepted
  unfold Standing.mark
  dsimp only
  split
  · exact ⟨hasked.hhandle, hasked.hcollected, hasked.hhistory⟩
  · exact hasked

/-- The negotiation of a new connection leaves alone what is collected. -/
theorem introduce (standing : Standing) (handle : Handle) (claimed probed : Option Answer)
    (claimAccepted probeAccepted : Bool) (messages : List MessageId)
    (result : Except ClientError UInt64) :
    Retains (standing.connect handle)
      (standing.introduce handle claimed probed claimAccepted probeAccepted messages result) := by
  have hclaimed : Retains (standing.connect handle)
      ((standing.connect handle).claim claimed claimAccepted) :=
    (exchange (standing.connect handle) rfl claimed claimAccepted).trans (adjust _ _ rfl)
  exact (hclaimed.trans (mark _ probed probeAccepted)).trans (log _ rfl)

end Retains

end Standing

end GnssAdapter
