import GnssAdapter.Proofs.Learning
import GnssAdapter.Proofs.Mask
import GnssAdapter.Proofs.Opening
import GnssAdapter.Transport.Scripted

/-!
What a negotiation makes of the answers to its questions. It completes whatever they are, and each
answer counts for its own capabilities alone, but for the batching that must be supported before it is
asked about further. All it offers has been confirmed, with one exception: a feature bitmap is taken
over from a response that refuses it.
-/

namespace GnssAdapter

/-- The answers to the questions of a negotiation. -/
structure Findings where
  mastery : Option Answer
  measured : Option Answer
  support : Except ClientError UInt64
  /-- Counts only if locations are batched, as it is not asked for otherwise. -/
  alwaysOn : Option Answer
  listed : Option Answer

namespace Findings

/-! ### What has been confirmed -/

variable (findings : Findings)

/-- The engine understands a probed message. -/
def understands (index : Nat) : Bool :=
  match findings.support with
  | .ok bits => bits.toNat.testBit index
  | .error _ => false

/-- The answer about what is always on has come with success, and has the capability. -/
def alwaysOnHas (capability : AlwaysOnFeature) : Bool :=
  match findings.alwaysOn with
  | some (.ok { status := .success, payload := .alwaysOn (some capabilities) }) =>
      capabilities.has capability
  | _ => false

/-- Locations are batched, and in this way too. -/
def batches (capability : AlwaysOnFeature) : Bool :=
  findings.understands 0 && findings.alwaysOnHas capability

def confirms : EngineFeature → Bool
  | .locationBatching => findings.understands 0
  | .batchedGeofenceBreach => findings.understands 1
  | .distanceBasedTracking => findings.understands 2
  | .adaptiveLocationBatching => findings.batches .autoBatching
  | .distanceBasedLocationBatching => findings.batches .distanceBasedBatching
  | .updateTbfOnTheFly => findings.batches .updateTbf
  | .outdoorTripBatching => findings.batches .outdoorTripBatching

/-- What the answers have confirmed, and no more. -/
def confirmed : EngineCapabilities where
  supportedMessages := .ofList ((Flag.all EngineFeature).filter findings.confirms)
  features :=
    match findings.listed with
    | some (.ok { status := .success, payload := .supportedFeatures bitmap }) => bitmap
    | _ => []
  gnssMeasurementSupported :=
    match findings.measured with
    | some (.ok response) => response.status = .success ∨ response.status = .engineBusy
    | _ => false

/-! ### What is offered -/

/-- The feature bitmap that has come, of whatever status. -/
def carried : List UInt8 :=
  match findings.listed with
  | some (.ok { payload := .supportedFeatures bitmap, .. }) => bitmap
  | _ => []

def offered : EngineCapabilities :=
  { findings.confirmed with features := findings.carried }

theorem carried_eq :
    findings.carried = (findings.listed.getD (.error .timeout)).featureBitmap := by
  unfold carried Answer.featureBitmap
  rcases findings.listed with - | (error | ⟨status, payload⟩)
  · rfl
  · rfl
  · cases payload <;> rfl

theorem gnssMeasurementSupported_eq :
    findings.confirmed.gnssMeasurementSupported = findings.measured.any Answer.isAccepted := by
  unfold confirmed
  rcases findings.measured with - | (error | ⟨status, payload⟩)
  · rfl
  · rfl
  · cases status <;> rfl

/-- What is offered is what has been confirmed, unless features come with a refusal. -/
theorem offered_eq_confirmed_iff :
    findings.offered = findings.confirmed ↔
      findings.listed.any Answer.isSuccess = true ∨ findings.carried = [] := by
  have hsame : findings.offered = findings.confirmed ↔
      findings.carried = findings.confirmed.features := by
    constructor
    · intro heq
      exact congrArg EngineCapabilities.features heq
    · intro heq
      unfold offered
      rw [heq]
  rw [hsame]
  unfold confirmed carried
  rcases findings.listed with - | (error | ⟨status, payload⟩)
  · simp
  · simp
  · cases status with
    | success => cases payload <;> simp [Answer.isSuccess, Verdict.isSuccess]
    | _ => cases payload <;> simp [Answer.isSuccess, Verdict.isSuccess]

/-! ### The supported messages, bit by bit -/

/-- The features of an answer about the probed messages. -/
def probedFeatures : Except ClientError UInt64 → Mask EngineFeature
  | .ok bits => EngineFeature.ofProbe bits
  | .error _ => ∅

instance : LawfulFlag EngineFeature :=
  .of_nodup (fun flag => by cases flag <;> decide) (by decide) (by decide)

theorem getLsbD_probedFeatures (index : Nat) :
    (probedFeatures findings.support).bits.getLsbD index =
      (decide (index < 3) && findings.understands index) := by
  unfold probedFeatures understands
  cases findings.support with
  | error error => rw [Mask.getLsbD_empty, Bool.and_false]
  | ok bits =>
      unfold EngineFeature.ofProbe
      dsimp only
      rw [BitVec.getLsbD_ofNat]
      change (decide (index < 64) && (bits.toNat % 2 ^ 3).testBit index) = _
      rw [Nat.testBit_mod_two_pow]
      by_cases hasked : index < 3
      · have hwithin : index < 64 := by omega
        rw [decide_eq_true hwithin, Bool.true_and]
      · rw [decide_eq_false hasked, Bool.false_and, Bool.and_false]

theorem probedFeatures_has_locationBatching :
    (probedFeatures findings.support).has .locationBatching = findings.understands 0 :=
  findings.getLsbD_probedFeatures 0

theorem getLsbD_alwaysOnFeatures (index : Nat) :
    (findings.alwaysOn.getD (.error .timeout)).alwaysOnFeatures.bits.getLsbD index =
      (Flag.all AlwaysOnFeature).any fun capability =>
        findings.alwaysOnHas capability && decide (Flag.bit capability.feature = index) := by
  have hnone : (∅ : Mask EngineFeature).bits.getLsbD index =
      (Flag.all AlwaysOnFeature).any fun capability =>
        false && decide (Flag.bit capability.feature = index) := by
    simp [Mask.getLsbD_empty]
  unfold alwaysOnHas Answer.alwaysOnFeatures Answer.payload?
  rcases findings.alwaysOn with - | (error | ⟨status, payload⟩)
  · exact hnone
  · exact hnone
  · cases status with
    | success =>
        cases payload with
        | alwaysOn content =>
            cases content with
            | none => exact hnone
            | some capabilities =>
                change (capabilities.translate _).bits.getLsbD index = _
                unfold Mask.translate Mask.flags
                rw [Mask.getLsbD_ofList, List.any_flatMap, List.any_filter]
                simp only [List.any_cons, List.any_nil, Bool.or_false, Mask.getLsbD_single]
        | _ => exact hnone
    | _ => exact hnone

/-- The supported messages are gathered as they are confirmed. -/
theorem supportedMessages_eq :
    findings.confirmed.supportedMessages =
      if (probedFeatures findings.support).has .locationBatching then
        probedFeatures findings.support ∪
          (findings.alwaysOn.getD (.error .timeout)).alwaysOnFeatures
      else probedFeatures findings.support := by
  rw [probedFeatures_has_locationBatching]
  apply Mask.ext_getLsbD
  intro index
  have hconfirmed : findings.confirmed.supportedMessages.bits.getLsbD index =
      (Flag.all EngineFeature).any fun feature =>
        findings.confirms feature && decide (Flag.bit feature = index) := by
    unfold confirmed
    rw [Mask.getLsbD_ofList, List.any_filter]
    simp only [Mask.getLsbD_single]
  have hprobed : (decide (index < 3) && findings.understands index) =
      ((findings.understands 0 && decide (0 = index)) ||
        ((findings.understands 1 && decide (1 = index)) ||
          (findings.understands 2 && decide (2 = index)))) := by
    rcases index with - | - | - | later
    · simp
    · simp
    · simp
    · have hbeyond : decide (later + 3 < 3) = false := by simp
      rw [hbeyond]
      simp
  rw [hconfirmed]
  by_cases hbatching : findings.understands 0 = true
  · rw [if_pos hbatching, Mask.getLsbD_union, getLsbD_alwaysOnFeatures, getLsbD_probedFeatures,
      hprobed]
    simp [Flag.all, Flag.layout, Flag.bit, confirms, batches, hbatching, AlwaysOnFeature.feature,
      Bool.or_assoc]
  · rw [if_neg hbatching, getLsbD_probedFeatures, hprobed]
    simp [Flag.all, Flag.layout, Flag.bit, confirms, batches, hbatching]

/-! ### The questions -/

/-- The questions, and how they have been answered. -/
def conversation (findings : Findings) (handle : Handle) : List Entry :=
  [.requested handle (.registerMasterClient masterKey) findings.mastery,
    .requested handle measurementProbe findings.measured,
    .probed handle probedMessages findings.support] ++
  (if findings.understands 0 then
    [.requested handle (.queryAlwaysOn alwaysOnTransaction) findings.alwaysOn] else []) ++
  [.requested handle .getSupportedFeatures findings.listed]

end Findings

def Entry.isRegistration : Entry → Bool
  | .registered .. => true
  | _ => false

namespace Standing

variable {before middle after : Standing} {handle : Handle}

/-- The connection and the store have been left alone; registrations aside, this has happened. -/
structure Hears (before after : Standing) (heard : List Entry) : Prop where
  hhandle : after.state.handle = before.state.handle
  hstore : after.capabilities = before.capabilities
  hentries : ∃ entries, after.history = entries ++ before.history ∧
    entries.reverse.filter (!·.isRegistration) = heard

namespace Hears

theorem of_same (hhandle : after.state.handle = before.state.handle)
    (hstore : after.capabilities = before.capabilities)
    (hhistory : after.history = before.history) : Hears before after [] :=
  ⟨hhandle, hstore, [], hhistory, rfl⟩

theorem trans {earlier later : List Entry} (hfirst : Hears before middle earlier)
    (hsecond : Hears middle after later) : Hears before after (earlier ++ later) := by
  obtain ⟨first, hmiddle, hearlier⟩ := hfirst.hentries
  obtain ⟨second, hafter, hlater⟩ := hsecond.hentries
  refine ⟨hsecond.hhandle.trans hfirst.hhandle, hsecond.hstore.trans hfirst.hstore,
    second ++ first, ?_, ?_⟩
  · rw [hafter, hmiddle, List.append_assoc]
  · rw [List.reverse_append, List.filter_append, hearlier, hlater]

theorem log (standing : Standing) {entry : Entry} (hkept : entry.isRegistration = false) :
    Hears standing (standing.log entry) [entry] := by
  refine ⟨rfl, rfl, [entry], rfl, ?_⟩
  rw [List.reverse_singleton, List.filter_cons_of_pos (by rw [hkept]; rfl), List.filter_nil]

theorem exchange {standing : Standing} (hopen : standing.state.handle = some handle)
    (request : Request) (answer : Option Answer) (accepted : Bool) :
    Hears standing (standing.exchange request answer accepted)
      [.requested handle request answer] := by
  have hstore : (standing.exchange request answer accepted).capabilities =
      standing.capabilities :=
    (Skips.exchange standing request.lesson?_ne_capabilities answer accepted).hlearnt
  obtain ⟨entries, hgrown, hasked⟩ : ∃ entries,
      (standing.exchange request answer accepted).history = entries ++ standing.history ∧
        entries.filter (!·.isRegistration) = [.requested handle request answer] :=
    exchange_filter hopen accepted (fun _ _ _ _ => rfl) rfl
  refine ⟨exchange_handle .., hstore, entries, hgrown, ?_⟩
  rw [List.filter_reverse, hasked, List.reverse_singleton]

theorem claim {standing : Standing} (hopen : standing.state.handle = some handle)
    (answer : Option Answer) (accepted : Bool) :
    Hears standing (standing.claim answer accepted)
      [.requested handle (.registerMasterClient masterKey) answer] :=
  (exchange hopen ..).trans (of_same rfl rfl rfl)

theorem mark {standing : Standing} (hopen : standing.state.handle = some handle)
    (answer : Option Answer) (accepted : Bool) :
    Hears standing (standing.mark answer accepted)
      [.requested handle measurementProbe answer] := by
  have hasked := exchange hopen measurementProbe answer accepted
  unfold Standing.mark
  dsimp only
  split
  · exact hasked.trans (of_same rfl rfl rfl)
  · exact hasked

end Hears

end Standing

namespace AdapterM

open Standing

variable {σ α β : Type}

/-- On an open connection, what an operation hears and what it returns go together. -/
def Converses (handle : Handle) (operation : AdapterM σ α) (outcome : List Entry → α → Prop) :
    Prop :=
  ∀ adapter : Adapter σ, adapter.state.handle = some handle →
    ∃ heard, adapter.standing.Hears (operation.run adapter).2.standing heard ∧
      outcome heard (operation.run adapter).1

namespace Converses

variable {handle : Handle}

theorem pure {value : α} {outcome : List Entry → α → Prop} (houtcome : outcome [] value) :
    Converses handle (pure value : AdapterM σ α) outcome := by
  intro adapter _
  exact ⟨[], .of_same rfl rfl rfl, houtcome⟩

theorem bind {operation : AdapterM σ α} {next : α → AdapterM σ β}
    {first : List Entry → α → Prop} {outcome : List Entry → β → Prop}
    (hfirst : Converses handle operation first)
    (hnext : ∀ heard value, first heard value →
      Converses handle (next value) fun later result => outcome (heard ++ later) result) :
    Converses handle (operation >>= next) outcome := by
  intro adapter hopen
  obtain ⟨heard, hheard, hvalue⟩ := hfirst adapter hopen
  obtain ⟨later, hlater, hresult⟩ :=
    hnext heard _ hvalue (operation.run adapter).2 (hheard.hhandle.trans hopen)
  exact ⟨heard ++ later, hheard.trans hlater, hresult⟩

variable [Environment σ]

theorem exchange (request : Request) :
    Converses handle (exchange request : AdapterM σ Answer) fun heard value =>
      ∃ answer, heard = [.requested handle request answer] ∧
        value = answer.getD (.error .timeout) := by
  intro adapter hopen
  obtain ⟨answer, accepted, hstanding, hanswer⟩ := exchange_standing request adapter
  refine ⟨_, ?_, answer, rfl, hanswer (by rw [hopen]; rfl)⟩
  rw [hstanding]
  exact .exchange hopen request answer accepted

theorem claimMaster : Converses handle (claimMaster : AdapterM σ Unit) fun heard _ =>
    ∃ answer, heard = [.requested handle (.registerMasterClient masterKey) answer] := by
  intro adapter hopen
  obtain ⟨answer, accepted, hstanding⟩ := claimMaster_standing adapter hopen
  refine ⟨_, ?_, answer, rfl⟩
  rw [hstanding]
  exact .claim hopen answer accepted

theorem probeMeasurement :
    Converses handle (probeMeasurement : AdapterM σ Bool) fun heard value =>
      ∃ answer, heard = [.requested handle measurementProbe answer] ∧
        value = answer.any Answer.isAccepted := by
  intro adapter hopen
  obtain ⟨answer, accepted, hstanding, hvalue⟩ := probeMeasurement_standing adapter hopen
  refine ⟨_, ?_, answer, rfl, hvalue⟩
  rw [hstanding]
  exact .mark hopen answer accepted

theorem probeMessages :
    Converses handle (probeMessages : AdapterM σ (Mask EngineFeature)) fun heard value =>
      ∃ result, heard = [.probed handle probedMessages result] ∧
        value = Findings.probedFeatures result := by
  intro adapter hopen
  have hprobed : adapter.standing.Hears ((probeOn handle probedMessages).run adapter).2.standing
      [.probed handle probedMessages ((probeOn handle probedMessages).run adapter).1] :=
    .log adapter.standing rfl
  unfold AdapterM.probeMessages
  rw [run_bind, run_get, hopen]
  dsimp only
  rw [run_bind]
  generalize (probeOn handle probedMessages).run adapter = probed at hprobed ⊢
  obtain ⟨result, probed⟩ := probed
  refine ⟨_, ?_, result, rfl, ?_⟩
  · cases result <;> exact hprobed
  · cases result <;> rfl

theorem queryAlwaysOn (features : Mask EngineFeature) :
    Converses handle (queryAlwaysOn features : AdapterM σ (Mask EngineFeature)) fun heard value =>
      ∃ answer : Option Answer,
        heard = (if features.has .locationBatching then
          [.requested handle (.queryAlwaysOn alwaysOnTransaction) answer] else []) ∧
        value = if features.has .locationBatching then
          features ∪ (answer.getD (.error .timeout)).alwaysOnFeatures else features := by
  unfold AdapterM.queryAlwaysOn
  by_cases hbatching : features.has .locationBatching = true
  · simp only [hbatching, if_true]
    refine (exchange _).bind ?_
    rintro _ _ ⟨answer, rfl, rfl⟩
    exact .pure ⟨answer, rfl, rfl⟩
  · simp only [hbatching]
    exact .pure ⟨none, rfl, rfl⟩

theorem queryFeatureBitmap :
    Converses handle (queryFeatureBitmap : AdapterM σ (List UInt8)) fun heard value =>
      ∃ answer : Option Answer, heard = [.requested handle .getSupportedFeatures answer] ∧
        value = (answer.getD (.error .timeout)).featureBitmap := by
  refine (exchange _).bind ?_
  rintro _ _ ⟨answer, rfl, rfl⟩
  exact .pure ⟨answer, rfl, rfl⟩

/-- Whatever the answers, there is something to be offered for them. -/
theorem inquire : Converses handle (inquire : AdapterM σ EngineCapabilities) fun heard offered =>
    ∃ findings : Findings, heard = findings.conversation handle ∧ offered = findings.offered := by
  apply claimMaster.bind
  rintro _ _ ⟨mastery, rfl⟩
  apply probeMeasurement.bind
  rintro _ _ ⟨measured, rfl, rfl⟩
  apply probeMessages.bind
  rintro _ _ ⟨support, rfl, rfl⟩
  apply (queryAlwaysOn _).bind
  rintro _ _ ⟨alwaysOn, rfl, rfl⟩
  apply queryFeatureBitmap.bind
  rintro _ _ ⟨listed, rfl, rfl⟩
  let findings : Findings := { mastery, measured, support, alwaysOn, listed }
  refine .pure ⟨findings, ?_, ?_⟩
  · rw [findings.probedFeatures_has_locationBatching]
    rfl
  · unfold Findings.offered
    dsimp only
    rw [findings.supportedMessages_eq, findings.gnssMeasurementSupported_eq, findings.carried_eq]

end Converses

end AdapterM

namespace Adapter

open AdapterM Standing

variable {σ : Type} [Environment σ]

/-- A master that connects asks its questions before all else, publishes what it offers for the
answers, and tells of it. -/
theorem ensureConnected_offers {adapter : Adapter σ} {handle : Handle}
    (hclosed : adapter.state.handle = none) (hmaster : adapter.isMaster = true)
    (hconnects : (Environment.connect adapter.surroundings).1 = .ok handle) :
    (ensureConnected.run adapter).1 = .ok () ∧ ∃ findings : Findings, ∃ asked,
      (adapter.standing.connect handle).Hears asked (findings.conversation handle) ∧
        (ensureConnected.run adapter).2.standing =
          (asked.publish findings.offered).log (.notified .featuresKnown) := by
  have hanswer : (connect.run adapter).1 = .ok handle := hconnects
  rcases ensureConnected_closed adapter hclosed with
    ⟨error, hfailed, -⟩ | ⟨made, connected, hmade, hconnected, ⟨-, hnegotiated⟩ | ⟨hclient, -⟩⟩
  · rw [hanswer] at hfailed
    cases hfailed
  · have hhandle : made = handle := Except.ok.inj (hmade.symm.trans hanswer)
    rw [hhandle] at hconnected
    have hopen : connected.state.handle = some handle :=
      congrArg (·.state.handle) hconnected
    obtain ⟨_, hheard, findings, rfl, hoffered⟩ := Converses.inquire connected hopen
    rw [hnegotiated, ← hconnected]
    refine ⟨rfl, findings, _, hheard, ?_⟩
    rw [negotiate_eq, run_bind, run_bind, hoffered]
    rfl
  · rw [show adapter.standing.isMaster = true from hmaster] at hclient
    cases hclient

/-- Where the transport connects, a closed master's opening succeeds whatever the answers to its
questions are, and the capabilities offered for them are published, once. They are those confirmed,
exactly if the feature bitmap has come with success or is empty. -/
theorem openConnection_offers {adapter : Adapter σ} {handle : Handle}
    (hclosed : adapter.state.handle = none) (hmaster : adapter.isMaster = true)
    (hconnects : (Environment.connect adapter.surroundings).1 = .ok handle)
    (events : Mask AdapterEvent) :
    let opened := (openConnection events).run adapter
    opened.1 = .ok () ∧ ∃ findings : Findings, ∃ rest,
      (gained adapter.history opened.2.history).reverse.filter (!·.isRegistration) =
          .connected (.ok handle) :: findings.conversation handle ++
            .published findings.offered adapter.shared.capabilities.published.isNone ::
              .notified .featuresKnown :: rest ∧
      (∀ entry ∈ rest, entry.lesson? ≠ some .capabilities) ∧
      opened.2.shared.capabilities.published =
        adapter.shared.capabilities.published.or (some findings.offered) ∧
      (findings.offered = findings.confirmed ↔
        findings.listed.any Answer.isSuccess = true ∨ findings.carried = []) := by
  intro opened
  obtain ⟨hok, findings, asked, hheard, hpublished⟩ :=
    ensureConnected_offers hclosed hmaster hconnects
  let connected := (ensureConnected.run adapter).2
  let changed := ((changeEvents (events \ connected.config.excludedEvents)).run connected).2
  have hopened : opened = (.ok (), changed) := by
    change (openConnection events).run adapter = _
    unfold openConnection
    rw [run_bind, hok]
    rfl
  have hchanged : connected.standing.Skips .capabilities changed.standing :=
    Omits.changeEvents (by decide) _ connected
  rw [hpublished] at hchanged
  obtain ⟨news, hnews, hquiet⟩ := hchanged.hentries
  obtain ⟨entries, hgrown, hconversation⟩ := hheard.hentries
  have hstore : asked.capabilities = adapter.shared.capabilities := hheard.hstore
  have hpublication : (asked.publish findings.offered).history =
      .published findings.offered adapter.shared.capabilities.published.isNone ::
        (entries ++ .connected (.ok handle) :: adapter.history) := by
    rw [← hstore, ← asked.capabilities.publish_accepted findings.offered]
    exact congrArg (_ :: ·) hgrown
  have hhistory : changed.history =
      (news ++ .notified .featuresKnown ::
        .published findings.offered adapter.shared.capabilities.published.isNone ::
          (entries ++ [.connected (.ok handle)])) ++ adapter.history := by
    rw [← Adapter.standing_history, hnews, log_history, hpublication]
    simp
  rw [hopened]
  refine ⟨rfl, findings, news.reverse.filter (!·.isRegistration), ?_, ?_, ?_,
    findings.offered_eq_confirmed_iff⟩
  · rw [hhistory, gained_append]
    simp only [List.reverse_append, List.reverse_cons, List.filter_append, hconversation,
      List.reverse_nil]
    simp [Entry.isRegistration]
  · intro entry hmem
    exact hquiet entry (List.mem_reverse.mp (List.mem_filter.mp hmem).1)
  · have hkept : changed.shared.capabilities =
        (asked.capabilities.publish findings.offered).1 := hchanged.hlearnt
    rw [hkept, CapabilityStore.published_publish, hstore]

/-- A master whose engine answers the question for its features in some way. -/
def facing (response : Response) : Adapter ScriptedEngine :=
  let engine : ScriptedEngine :=
    { clock := .first
      responses := [(.getSupportedFeatures, response)] }
  .spawn { masterClient := true } engine {}

theorem openConnection_offers_listed :
    let adapter := facing { payload := .supportedFeatures [5] }
    adapter.state.handle = none ∧ adapter.isMaster = true ∧
      (Environment.connect adapter.surroundings).1 = .ok ⟨1⟩ ∧
      let opened := (openConnection ∅).run (facing { payload := .supportedFeatures [5] })
      opened.1 = .ok () ∧ ∃ findings : Findings,
        opened.2.shared.capabilities.published = some findings.offered ∧
          findings.carried = [5] := by
  have hclosed : (facing { payload := .supportedFeatures [5] }).state.handle = none := rfl
  have hmaster : (facing { payload := .supportedFeatures [5] }).isMaster = true := rfl
  have hconnects : (Environment.connect
      (facing { payload := .supportedFeatures [5] }).surroundings).1 = .ok ⟨1⟩ := rfl
  obtain ⟨hok, findings, -, -, -, hstored, -⟩ := openConnection_offers hclosed hmaster hconnects ∅
  have hlisted : ((openConnection ∅).run (facing { payload := .supportedFeatures [5]
      })).2.shared.capabilities.published.map (·.features) = some [5] := rfl
  refine ⟨hclosed, hmaster, hconnects, hok, findings, hstored, ?_⟩
  rw [hstored] at hlisted
  exact Option.some.inj hlisted

/-- Features that come with a refusal are published, though nothing has confirmed them. -/
theorem openConnection_offers_refused :
    let refusal : Response := { status := .generalFailure, payload := .supportedFeatures [5] }
    let opened := (openConnection ∅).run (facing refusal)
    ∃ findings : Findings, ∃ rest,
      (gained (facing refusal).history opened.2.history).reverse =
          .connected (.ok ⟨1⟩) :: findings.conversation ⟨1⟩ ++ rest ∧
        findings.confirmed.features = [] ∧
        opened.2.shared.capabilities.published.map (·.features) = some [5] :=
  ⟨{ mastery := some (.ok {})
     measured := some (.ok {})
     support := .ok 0
     alwaysOn := none
     listed := some (.ok { status := .generalFailure, payload := .supportedFeatures [5] }) },
    _, rfl, rfl, rfl⟩

end Adapter

end GnssAdapter
