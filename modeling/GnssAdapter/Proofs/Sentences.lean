import GnssAdapter.Proofs.Course

/-!
Sentence types that are accepted and those that the engine has taken. A request to set them is noted
whatever comes of it, with a connection or without, and is not sent again while the note stands.
-/

namespace GnssAdapter

/-- The sentence types of a request to set them, and the answer to it. -/
def Entry.sentences? : Entry → Option (UInt32 × Option Answer)
  | .requested _ (.setNmeaTypes types) answer => some (types, answer)
  | _ => none

/-- The latest request on the latest connection to set sentence types. -/
def lastSentences (history : List Entry) : Option (UInt32 × Option Answer) :=
  (connectionOf history).findSome? Entry.sentences?

theorem Entry.sentences?_of_isPlain (entry : Entry) (hplain : entry.isPlain = true) :
    entry.sentences? = none := by
  cases entry with
  | requested handle request answer =>
      cases request with
      | setNmeaTypes types => cases hplain
      | _ => rfl
  | _ => rfl

theorem lastSentences_cons {entry : Entry} (history : List Entry)
    (hgoes : entry.opensConnection = false) :
    lastSentences (entry :: history) = entry.sentences?.or (lastSentences history) :=
  findSome?_connectionOf_cons history _ hgoes

theorem Plainly.lastSentences_eq {earlier later : List Entry} (hplainly : Plainly earlier later) :
    lastSentences later = lastSentences earlier :=
  hplainly.findSome?_eq Entry.sentences?_of_isPlain

theorem Answer.verdict_eq_ok_iff (answer : Answer) :
    answer.verdict = .ok () ↔ answer.isSuccess = true := by
  rcases answer with error | ⟨status, payload⟩
  · cases error <;> simp [verdict, isSuccess]
  · cases status <;> simp [verdict, isSuccess, Verdict.isSuccess]

theorem Answer.isSuccess_getD (answer : Option Answer) :
    (answer.getD (.error .timeout)).isSuccess = answer.any Answer.isSuccess := by
  cases answer <;> rfl

namespace Standing

variable {standing before after : Standing}

theorem sendTypes_sentences {handle : Handle} (hopen : standing.state.handle = some handle)
    (types : UInt32) (answer : Option Answer) (accepted : Bool) :
    lastSentences (standing.sendTypes types answer accepted).history = some (types, answer) := by
  have hasked (handle : Handle) : lastSentences
      (standing.log (.requested handle (.setNmeaTypes types) answer)).history =
        some (types, answer) := lastSentences_cons _ rfl
  have hexchanged := standing.exchanged (.setNmeaTypes types) answer accepted
  change lastSentences (standing.exchange (.setNmeaTypes types) answer accepted).history = _
  generalize standing.exchange (.setNmeaTypes types) answer accepted = after at hexchanged ⊢
  cases hexchanged with
  | closed hclosed => exact nomatch hclosed.symm.trans hopen
  | asked | kept => exact hasked _
  | @watched handle => exact (lastSentences_cons _ rfl).trans (hasked handle)

theorem collect_sentences (standing : Standing) (fragment : MeasurementFragment)
    (timestamp : ApTimestamp) :
    lastSentences (standing.collect fragment timestamp).history =
      lastSentences standing.history := by
  rw [collect_eq]
  refine findSome?_connectionOf_append _ fun entry hmem => ?_
  rcases mem_collectEntries hmem with ⟨event, rfl⟩ | ⟨callback, rfl⟩ <;> exact ⟨rfl, rfl⟩

/-- The sentence types that were sent last on an open connection are those noted. -/
def Notes (standing : Standing) : Prop :=
  standing.state.handle ≠ none → ∀ types answer,
    lastSentences standing.history = some (types, answer) → standing.state.nmeaTypes = some types

theorem Retains.nmeaTypes_eq (hretains : before.Retains after) :
    after.state.nmeaTypes = before.state.nmeaTypes :=
  congrArg Prod.fst hretains.hcollected

theorem Notes.retain (hnotes : before.Notes) (hretains : before.Retains after) : after.Notes := by
  unfold Notes
  rw [hretains.hhandle, hretains.nmeaTypes_eq, hretains.hhistory.lastSentences_eq]
  exact hnotes

end Standing

namespace Adapter

open AdapterM Standing

variable {σ : Type} [Environment σ] {adapter : Adapter σ}

theorem Course.notes {action : AdapterAction} {after : Standing}
    (hcourse : adapter.Course action after) (hnotes : adapter.standing.Notes) : after.Notes := by
  cases hcourse with
  | retain _ _ _ hretains => exact hnotes.retain hretains
  | «open» handle _ _ hretains =>
      have hfresh : (adapter.standing.connect handle).Notes := fun _ _ _ hlast => nomatch hlast
      exact hfresh.retain hretains
  | sever _ hstate =>
      intro hopen
      rw [hstate] at hopen
      exact absurd rfl hopen
  | stopFix hretains =>
      have hstopped := hnotes.retain hretains
      exact hstopped
  | keepTypes => exact hnotes
  | sendTypes _ answer accepted =>
      intro hopen types earlier hlast
      rename_i sent
      change (adapter.standing.exchange _ answer accepted).state.handle ≠ none at hopen
      rw [exchange_handle] at hopen
      obtain ⟨handle, hopen⟩ := Option.ne_none_iff_exists'.mp hopen
      rw [sendTypes_sentences hopen] at hlast
      cases hlast
      rfl
  | collect fragment timestamp =>
      unfold Notes
      rw [collect_sentences, collect_eq]
      exact hnotes

theorem Reachable.notes (hreachable : adapter.Reachable) : adapter.standing.Notes := by
  refine hreachable.induction (motive := fun adapter => adapter.standing.Notes) ?_ ?_
  · exact fun _ _ _ hopen => absurd rfl hopen
  · exact fun hnotes action => (act_course _ action).notes hnotes

/-- Sentence types that are accepted on an open connection are those of the latest request on it,
answered with success, exactly if one of two things holds. They were not noted before, so that they
have been sent; or the latest request on the connection before was answered with success. -/
theorem setNmeaTypes_reaches_iff (hreachable : adapter.Reachable)
    (hopen : adapter.state.handle ≠ none) (types : UInt32)
    (hok : ((setNmeaTypes types).run adapter).1 = .ok ()) :
    (∃ answer, lastSentences ((setNmeaTypes types).run adapter).2.history = some (types, answer) ∧
        answer.any Answer.isSuccess = true) ↔
      adapter.state.nmeaTypes ≠ some types ∨
        ∃ earlier answer, lastSentences adapter.history = some (earlier, answer) ∧
          answer.any Answer.isSuccess = true := by
  rcases setNmeaTypes_cases types adapter with
    ⟨hsame, hkept⟩ | ⟨hdiffers, answer, accepted, hstanding, hresult⟩
  · rw [hkept]
    constructor
    · rintro ⟨answer, hlast, hsuccess⟩
      exact .inr ⟨types, answer, hlast, hsuccess⟩
    · rintro (hdiffers | ⟨earlier, answer, hlast, hsuccess⟩)
      · exact absurd hsame hdiffers
      · have hnoted := hreachable.notes hopen earlier answer hlast
        cases hsame.symm.trans hnoted
        exact ⟨answer, hlast, hsuccess⟩
  · refine ⟨fun _ => .inl hdiffers, fun _ => ⟨answer, ?_, ?_⟩⟩
    · obtain ⟨handle, hsome⟩ := Option.ne_none_iff_exists'.mp hopen
      rw [← standing_history, hstanding]
      exact sendTypes_sentences hsome types answer accepted
    · rw [hresult (Option.isSome_iff_ne_none.mpr hopen), Answer.verdict_eq_ok_iff,
        Answer.isSuccess_getD] at hok
      exact hok

/-- The first sentence types on a connection are sent. -/
theorem setNmeaTypes_reaches_at_first :
    let adapter := obligedAfter [.execute (.connect (.single .niRequest))]
    let noted := (setNmeaTypes 1).run adapter
    noted.1 = .ok () ∧ ∃ answer, lastSentences noted.2.history = some (1, answer) ∧
      answer.any Answer.isSuccess = true := by
  have hreachable : (obligedAfter [.execute (.connect (.single .niRequest))]).Reachable :=
    ⟨_, _, _, _, rfl⟩
  exact ⟨rfl, (setNmeaTypes_reaches_iff hreachable (by decide) 1 rfl).mpr (.inl (by decide))⟩

/-- Sentence types that could not be sent without a connection look as if they had been when one is
opened. -/
theorem setNmeaTypes_accepted_unsent :
    let refused := (setNmeaTypes 1).run (obligedAfter [])
    let opened := (openConnection (.single .niRequest)).run refused.2
    let accepted := (setNmeaTypes 1).run opened.2
    refused.1 = .error .generalFailure ∧ opened.1 = .ok () ∧ accepted.1 = .ok () ∧
      lastSentences accepted.2.history = none :=
  ⟨rfl, rfl, rfl, rfl⟩

end Adapter

end GnssAdapter
