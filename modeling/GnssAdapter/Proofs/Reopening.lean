import GnssAdapter.Proofs.Starting

/-!
Opening what is open. Once a connection has been opened for some events, asking for the same events
again finds the connection open and the events unchanged, so that all that can be left to do is to
tell the engine of Wi-Fi. That is left exactly if Wi-Fi requests are asked for and not registered,
and they are registered if the transport has accepted the events: between the two calls a registered
event stays registered.
-/

namespace GnssAdapter

theorem gateEvents_has_wifiRequest (native : Mask NativeEvent) (inSession : Bool) :
    (gateEvents native inSession).has .wifiRequest = native.has .wifiRequest := by
  have hungated : NativeEvent.sessionGated.has .wifiRequest = false := by decide
  unfold gateEvents
  split
  · rfl
  · have hbit := Mask.getLsbD_sdiff native NativeEvent.sessionGated
      (Flag.bit NativeEvent.wifiRequest)
    unfold Mask.has at hungated ⊢
    rw [hbit, hungated, Bool.not_false, Bool.and_true]

namespace Standing

variable {standing : Standing}

theorem exchange_nativeFor (standing : Standing) (request : Request) (answer : Option Answer)
    (accepted : Bool) (requested : Mask AdapterEvent) :
    (standing.exchange request answer accepted).nativeFor requested =
      standing.nativeFor requested := by
  have hstore : (standing.exchange request answer accepted).capabilities =
      standing.capabilities := by
    have hexchanged := standing.exchanged request answer accepted
    generalize standing.exchange request answer accepted = after at hexchanged ⊢
    cases hexchanged <;> rfl
  unfold nativeFor batchedBreach
  rw [exchange_config, exchange_state, hstore]

/-- What a request on an open connection comes to. The first one that finds the engine busy has its
state registered, unless it is. -/
theorem exchange_open {handle : Handle} (hopen : standing.state.handle = some handle)
    (request : Request) (answer : Option Answer) (accepted : Bool) :
    let asked := .requested handle request answer :: standing.history
    let registers := answer.any Answer.isBusy && standing.replays.isEmpty &&
      !standing.state.registeredMask.has .engineState
    let grown := standing.state.registeredMask ∪ .single .engineState
    let after := standing.exchange request answer accepted
    registers = false ∧ after.history = asked ∧ after.state = standing.state ∨
      registers = true ∧
        after.history = .registered handle grown standing.isMaster accepted :: asked ∧
        after.state =
          if accepted then { standing.state with registeredMask := grown }
          else standing.state := by
  intro asked registers grown after
  have hexchanged : standing.Exchanged request answer accepted after :=
    standing.exchanged request answer accepted
  clear_value after
  cases hexchanged with
  | closed hclosed => exact nomatch hclosed.symm.trans hopen
  | asked hstill hfree =>
      obtain rfl := Option.some.inj (hopen.symm.trans hstill)
      have hregisters : registers = false := by simp [registers, hfree]
      exact .inl ⟨hregisters, rfl, rfl⟩
  | kept hstill hbusy hheard =>
      obtain rfl := Option.some.inj (hopen.symm.trans hstill)
      have hregisters : registers = false := by
        rcases hheard with hwaits | hheard
        · simp [registers, hwaits]
        · simp [registers, hheard]
      exact .inl ⟨hregisters, rfl, rfl⟩
  | watched hstill hbusy hfirst =>
      obtain rfl := Option.some.inj (hopen.symm.trans hstill)
      have hregisters : registers = true := by simp [registers, hbusy, hfirst]
      exact .inr ⟨hregisters, rfl, rfl⟩

theorem subscribe_keeps {event : NativeEvent} (requested : Mask AdapterEvent) (accepted : Bool)
    (hnative : (standing.nativeFor requested).has event = true) :
    Keeps event standing (standing.subscribe requested accepted) := by
  have hsubscribed := standing.subscribed requested accepted
  generalize standing.subscribe requested accepted = after at hsubscribed ⊢
  cases hsubscribed with
  | closed | unchanged => exact Keeps.refl standing
  | @registered handle => exact Keeps.of_grown standing (fun _ => hnative) handle accepted

end Standing

namespace AdapterM

open Standing

variable {σ : Type} [Environment σ]

theorem ensureConnected_keeps {adapter : Adapter σ} (event : NativeEvent)
    (hok : (ensureConnected.run adapter).1 = .ok ()) :
    Keeps event adapter.standing (ensureConnected.run adapter).2.standing := by
  rcases ensureConnected_cases adapter with
    ⟨-, hkept⟩ | ⟨-, ⟨error, hfailed, -⟩ | ⟨handle, connected, hconnected, hmade⟩⟩
  · rw [hkept]
    exact .refl _
  · rw [hfailed] at hok
    cases hok
  · have hfirst : Keeps event adapter.standing connected.standing := by
      rw [hconnected]
      exact Keeps.log adapter.standing (rfl : (Entry.connected (.ok handle)).acceptedMask? = none)
    rcases hmade with ⟨-, hnegotiated⟩ | ⟨-, hdone⟩
    · have hundisturbed := negotiate_undisturbed connected hconnected
      rw [hnegotiated]
      refine hfirst.trans (hundisturbed.hkeeps event) ?_ hundisturbed.hsuffix
      rw [hconnected]
      exact List.suffix_cons ..
    · rw [hdone]
      exact hfirst

/-- Changing the events asks first. Then the events are subscribed, unless they are unchanged, and
something may be asked after that. -/
theorem changeEvents_course (requested : Mask AdapterEvent) (adapter : Adapter σ) :
    ∃ announced : Standing, Undisturbed adapter.standing announced ∧
      let final := ((changeEvents requested).run adapter).2.standing
      (requested = announced.state.requestedMask ∧ final = announced ∨
        ∃ accepted, final = announced.subscribe requested accepted ∨
          ∃ request answer again, final =
            (announced.subscribe requested accepted).exchange request answer again) := by
  refine ⟨_, Asks.announceWifi (nativeEvents requested adapter.batchedBreach) adapter, ?_⟩
  rcases changeEvents_cases requested adapter with
    hsame | ⟨-, accepted, ⟨-, hsubscribed⟩ | ⟨-, answer, again, hasked⟩⟩
  · exact .inl hsame
  · exact .inr ⟨accepted, .inl hsubscribed⟩
  · exact .inr ⟨accepted, .inr ⟨_, answer, again, hasked⟩⟩

/-- Where the events asked for come to a native event, opening leaves it registered if it was
before, or if the transport has accepted it in the course. -/
theorem openConnection_keeps {adapter : Adapter σ} {requested : Mask AdapterEvent}
    (hok : ((openConnection requested).run adapter).1 = .ok ()) {event : NativeEvent}
    (hnative : (((openConnection requested).run adapter).2.standing.nativeFor requested).has event =
      true) :
    Keeps event adapter.standing ((openConnection requested).run adapter).2.standing := by
  obtain ⟨hconnected, hopened⟩ := Adapter.openConnection_ok hok
  have hfirst := ensureConnected_keeps event hconnected
  have hmade := (Walks.ensureConnected adapter).history_suffix
  rw [hopened] at hnative ⊢
  generalize (ensureConnected.run adapter).2 = connected at hnative hfirst hmade ⊢
  obtain ⟨announced, hasked, hfinal⟩ :=
    changeEvents_course (requested \ connected.config.excludedEvents) connected
  dsimp only at hfinal
  generalize ((changeEvents _).run connected).2.standing = final at hnative hfinal ⊢
  have hannounced := hfirst.trans (hasked.hkeeps event) hmade hasked.hsuffix
  have hsubscribed (accepted : Bool) (hsame : final.nativeFor requested =
      (announced.subscribe (requested \ connected.config.excludedEvents) accepted).nativeFor
        requested) :
      Keeps event adapter.standing
        (announced.subscribe (requested \ connected.config.excludedEvents) accepted) := by
    refine hannounced.trans (subscribe_keeps _ accepted ?_) (hmade.trans hasked.hsuffix)
      (history_suffix_subscribe ..)
    have hconfig : connected.config = announced.config := hasked.hconfig.symm
    rw [hsame, (subscribe_nativeFor ..).2] at hnative
    rwa [hconfig, nativeFor_sdiff]
  rcases hfinal with ⟨-, rfl⟩ | ⟨accepted, rfl | ⟨request, answer, again, rfl⟩⟩
  · exact hannounced
  · exact hsubscribed accepted rfl
  · exact (hsubscribed accepted (exchange_nativeFor ..)).trans
      (Keeps.exchange _ request answer again)
      ((hmade.trans hasked.hsuffix).trans (history_suffix_subscribe ..))
      (history_suffix_exchange ..)

theorem openConnection_requestedMask {adapter : Adapter σ} {requested : Mask AdapterEvent}
    (hok : ((openConnection requested).run adapter).1 = .ok ()) :
    ((openConnection requested).run adapter).2.state.requestedMask =
      requested \ adapter.config.excludedEvents := by
  obtain ⟨-, hopened⟩ := Adapter.openConnection_ok hok
  have hconfig : (ensureConnected.run adapter).2.config = adapter.config :=
    (Walks.ensureConnected adapter).config_eq
  rw [hopened, ← Adapter.standing_state, ← hconfig]
  generalize (ensureConnected.run adapter).2 = connected
  obtain ⟨announced, hasked, hfinal⟩ :=
    changeEvents_course (requested \ connected.config.excludedEvents) connected
  have hsubscribed (accepted : Bool) :
      (announced.subscribe (requested \ connected.config.excludedEvents)
        accepted).state.requestedMask = requested \ connected.config.excludedEvents := by
    have hexcluded : announced.config = connected.config := hasked.hconfig
    rw [subscribe_requestedMask, hexcluded, Mask.sdiff_sdiff_self]
  rcases hfinal with ⟨hsame, hleft⟩ | ⟨accepted, hleft | ⟨request, answer, again, hleft⟩⟩
  · rw [hleft, ← hsame]
  · rw [hleft, hsubscribed]
  · rw [hleft, exchange_requestedMask, hsubscribed]

/-- Events that are asked for already are left as they are, but for the notice of Wi-Fi. -/
theorem changeEvents_same {adapter : Adapter σ} {requested : Mask AdapterEvent}
    (hsame : requested = adapter.state.requestedMask) :
    (changeEvents requested).run adapter =
      (announceWifi (nativeEvents requested adapter.batchedBreach)).run adapter := by
  have hasked := Asks.announceWifi (nativeEvents requested adapter.batchedBreach) adapter
  have hkept := hasked.requestedMask_eq
  unfold changeEvents
  rw [run_bind, run_get]
  dsimp only
  rw [run_bind, run_bind, run_get]
  rw [Adapter.standing_state, Adapter.standing_state, ← hsame] at hkept
  rw [if_pos hkept.symm]
  rfl

theorem openConnection_same {adapter : Adapter σ} {requested : Mask AdapterEvent}
    (hopen : adapter.state.handle ≠ none)
    (hsame : requested \ adapter.config.excludedEvents = adapter.state.requestedMask) :
    (openConnection requested).run adapter =
      (.ok (), ((announceWifi (nativeEvents (requested \ adapter.config.excludedEvents)
        adapter.batchedBreach)).run adapter).2) := by
  have hconnected : ensureConnected.run adapter = (.ok (), adapter) := by
    rcases ensureConnected_cases adapter with ⟨-, hkept⟩ | ⟨hclosed, -⟩
    · exact hkept
    · exact absurd hclosed hopen
  unfold openConnection
  rw [run_bind, hconnected]
  dsimp only
  rw [run_bind, run_get]
  dsimp only
  rw [run_bind, changeEvents_same hsame]
  rfl

theorem announceWifi_needless {native : Mask NativeEvent} {adapter : Adapter σ}
    (hneedless : (native.has .wifiRequest && !adapter.state.registeredMask.has .wifiRequest) =
      false) : (announceWifi native).run adapter = ((), adapter) := by
  unfold announceWifi
  rw [run_bind, run_get, if_neg (Bool.eq_false_iff.mp hneedless)]
  rfl

theorem announceWifi_needed {native : Mask NativeEvent} {adapter : Adapter σ}
    (hneeded : (native.has .wifiRequest && !adapter.state.registeredMask.has .wifiRequest) =
      true) :
    ∃ answer accepted, ((announceWifi native).run adapter).2.standing =
      adapter.standing.exchange (.notifyWifi true) answer accepted := by
  obtain ⟨answer, accepted, hasked, -⟩ := exchange_standing (.notifyWifi true) adapter
  refine ⟨answer, accepted, ?_⟩
  unfold announceWifi
  rw [run_bind, run_get, if_pos hneeded]
  exact hasked

end AdapterM

namespace Adapter

open AdapterM Standing

variable {σ : Type} [Environment σ]

/-- Once a connection has been opened for some events, opening it for them again succeeds, neither
connects nor negotiates nor subscribes anything, and leaves the events asked for as they are. The
engine is told of Wi-Fi exactly if that is asked for and not registered, and if that finds the
engine busy as the first request to do so, its state may be registered for. Nothing at all is done
if the transport has accepted the native mask of the events in the course of the first opening. -/
theorem openConnection_again {adapter : Adapter σ} {requested : Mask AdapterEvent}
    (hok : ((openConnection requested).run adapter).1 = .ok ()) :
    let opened := ((openConnection requested).run adapter).2
    let again := (openConnection requested).run opened
    let events := requested \ adapter.config.excludedEvents
    let lacksWifi := (nativeEvents events opened.batchedBreach).has .wifiRequest &&
      !opened.state.registeredMask.has .wifiRequest
    again.1 = .ok () ∧
      opened.state.requestedMask = events ∧ again.2.state.requestedMask = events ∧
      (lacksWifi = false → again.2 = opened) ∧
      (lacksWifi = true → ∃ handle answer accepted, opened.state.handle = some handle ∧
        let notice := .requested handle (.notifyWifi true) answer :: opened.history
        let registers := answer.any Answer.isBusy && opened.replays.isEmpty &&
          !opened.state.registeredMask.has .engineState
        let grown := opened.state.registeredMask ∪ .single .engineState
        registers = false ∧ again.2.history = notice ∧ again.2.state = opened.state ∨
          registers = true ∧
            again.2.history = .registered handle grown opened.isMaster accepted :: notice ∧
            again.2.state =
              if accepted then { opened.state with registeredMask := grown }
              else opened.state) ∧
      ((∃ handle isMaster, .registered handle
          (registrationMask events opened.state.inSession opened.batchedBreach) isMaster true ∈
            gained adapter.history opened.history) → again.2 = opened) := by
  intro opened again events lacksWifi
  have hopen : opened.state.handle ≠ none := (openConnection_session hok).1
  have hconfig : opened.config = adapter.config :=
    (Walks.openConnection requested adapter).config_eq
  have hrequested : opened.state.requestedMask = events := openConnection_requestedMask hok
  have hagain : again = (.ok (), ((announceWifi (nativeEvents events opened.batchedBreach)).run
      opened).2) := by
    have hsame : requested \ opened.config.excludedEvents = opened.state.requestedMask := by
      rw [hconfig, hrequested]
    have hreopened := openConnection_same hopen hsame
    rwa [hconfig] at hreopened
  have hquiet (hneedless : lacksWifi = false) : again.2 = opened := by
    rw [hagain, announceWifi_needless hneedless]
  refine ⟨congrArg Prod.fst hagain, hrequested, ?_, hquiet, fun hneeded => ?_,
    fun ⟨handle, isMaster, hregistered⟩ => hquiet ?_⟩
  · rw [hagain]
    exact (Asks.announceWifi _ opened).requestedMask_eq.trans hrequested
  · obtain ⟨handle, hhandle⟩ := Option.ne_none_iff_exists'.mp hopen
    obtain ⟨answer, accepted, hasked⟩ := announceWifi_needed hneeded
    have hstanding : opened.standing.state.handle = some handle := hhandle
    have hnotice := exchange_open hstanding (.notifyWifi true) answer accepted
    rw [← hasked] at hnotice
    rw [hagain]
    exact ⟨handle, answer, accepted, hhandle, hnotice⟩
  · -- Wi-Fi requests are not held back outside a session, so that the accepted mask has them.
    cases hwanted : (nativeEvents events opened.batchedBreach).has .wifiRequest with
    | false => exact Bool.and_eq_false_imp.mpr fun hwifi => nomatch hwanted.symm.trans hwifi
    | true =>
        have hnative : (opened.standing.nativeFor requested).has .wifiRequest = true := by
          change (registrationMask (requested \ opened.config.excludedEvents)
            opened.state.inSession opened.batchedBreach).has .wifiRequest = true
          rw [hconfig]
          exact (gateEvents_has_wifiRequest ..).trans hwanted
        have hkept : opened.state.registeredMask.has .wifiRequest = true :=
          openConnection_keeps hok hnative
            (.inr ⟨_, hregistered, _, rfl, (gateEvents_has_wifiRequest ..).trans hwanted⟩)
        simp only [lacksWifi, hkept, Bool.not_true, Bool.and_false]

/-- Wi-Fi requests that were asked for while no connection was open are left unregistered by the
first opening, so that the second one tells of Wi-Fi again; registered ones leave it nothing. -/
theorem openConnection_again_wifi :
    let early := obligedAfter [.execute (.subscribe (.single .wifiRequest))]
    let opened := ((openConnection (.single .wifiRequest)).run early).2
    let again := (openConnection (.single .wifiRequest)).run opened
    let other := ((openConnection (.single .wifiRequest)).run (obligedAfter [])).2
    again.1 = .ok () ∧ again.2.state.requestedMask = .single .wifiRequest ∧
      (∃ handle answer accepted, opened.state.handle = some handle ∧
        let notice := .requested handle (.notifyWifi true) answer :: opened.history
        let registers := answer.any Answer.isBusy && opened.replays.isEmpty &&
          !opened.state.registeredMask.has .engineState
        let grown := opened.state.registeredMask ∪ .single .engineState
        registers = false ∧ again.2.history = notice ∧ again.2.state = opened.state ∨
          registers = true ∧
            again.2.history = .registered handle grown opened.isMaster accepted :: notice ∧
            again.2.state =
              if accepted then { opened.state with registeredMask := grown }
              else opened.state) ∧
      ((openConnection (.single .wifiRequest)).run other).2 = other := by
  have hfirst : ((openConnection (.single .wifiRequest)).run
      (obligedAfter [.execute (.subscribe (.single .wifiRequest))])).1 = .ok () := rfl
  have hother : ((openConnection (.single .wifiRequest)).run (obligedAfter [])).1 = .ok () := rfl
  have hearly := openConnection_again hfirst
  have hlater := openConnection_again hother
  exact ⟨hearly.1, hearly.2.2.1, hearly.2.2.2.2.1 rfl,
    hlater.2.2.2.2.2 ⟨⟨1⟩, false, List.mem_cons_self⟩⟩

end Adapter

end GnssAdapter
