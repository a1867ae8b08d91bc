import GnssAdapter.Adapter.Inbound
import GnssAdapter.Proofs.Retaining

/-!
What is reported when something arrives. No report that goes without the state of the adapter is
about measurements.
-/

namespace GnssAdapter

/-! ### Relayed events -/

/-- A callback by which an event is told, whatever the state of the adapter. -/
def Callback.isRelay : Callback → Bool
  | .rawSet _ | .processedEpoch .. | .energyConsumed _ | .engineDown | .featuresKnown => false
  | _ => true

theorem OrbitServers.callbacks_isRelay (urls : List String) :
    (OrbitServers.callbacks urls).all Callback.isRelay = true := by
  unfold callbacks
  split <;> rfl

theorem PositionIndication.callback_isRelay (indication : PositionIndication)
    (timestamp : ApTimestamp) (unpropagated : Bool) :
    (indication.callback timestamp unpropagated).isRelay = true := by
  unfold callback
  dsimp only
  split <;> rfl

theorem Indication.callbacks_isRelay (indication : Indication) :
    indication.callbacks.all Callback.isRelay = true := by
  have hmap {α : Type} {report : α → Callback} (hrelay : ∀ value, (report value).isRelay = true)
      (value : Option α) : (value.map report).toList.all Callback.isRelay = true := by
    cases value with
    | none => rfl
    | some value => simp [hrelay]
  cases indication with
  | predictedOrbitsRequest indication =>
      change (OrbitServers.callbacks _ ++ _).all _ = true
      rw [List.all_append, OrbitServers.callbacks_isRelay]
      rfl
  | connectionRequest indication =>
      change [indication.callback].all Callback.isRelay = true
      unfold ServerConnectionIndication.callback
      split <;> rfl
  | niRequest | wifiRequest => exact hmap (fun _ => rfl) _
  | eventReport indication =>
      change (EventReportIndication.callbacks _).all _ = true
      unfold EventReportIndication.callbacks
      rw [List.all_append, List.all_append, hmap fun _ => rfl, hmap fun _ => rfl,
        hmap fun _ => rfl]
      rfl
  | nmea indication =>
      change (NmeaIndication.callbacks _).all _ = true
      unfold NmeaIndication.callbacks
      dsimp only
      split <;> rfl
  | polynomial orbit =>
      change (OrbitPolynomial.callbacks _).all _ = true
      unfold OrbitPolynomial.callbacks
      split <;> rfl
  | blacklist reply =>
      change (BlacklistReply.callbacks _).all _ = true
      unfold BlacklistReply.callbacks
      split <;> rfl
  | constellations reply =>
      change (ConstellationReply.callbacks _).all _ = true
      unfold ConstellationReply.callbacks
      split <;> rfl
  | systemInfo indication =>
      change (SystemInfoIndication.callbacks _).all _ = true
      unfold SystemInfoIndication.callbacks
      split <;> rfl
  | position | unpropagatedPosition | satelliteInfo | fixSessionState | timeRequest
  | positionRequest | ephemeris | engineState | measurement => rfl

theorem PositionReply.callback_isRelay (reply : PositionReply) (timestampMs : UInt64) :
    (reply.callback timestampMs).isRelay = true := by
  cases reply with
  | wwanPosition reply => rfl
  | bestAvailablePosition reply =>
      change (BestAvailableReply.callback _ _).isRelay = true
      unfold BestAvailableReply.callback
      split <;> rfl

/-! ### Plain reports -/

theorem Callback.isPlain_of_isRelay {callback : Callback} (hrelay : callback.isRelay = true) :
    callback.isPlain = true := by
  cases callback with
  | rawSet | processedEpoch => cases hrelay
  | _ => rfl

theorem all_isPlain_of_all_isRelay {callbacks : List Callback}
    (hrelay : callbacks.all Callback.isRelay = true) : callbacks.all Callback.isPlain = true := by
  rw [List.all_eq_true] at hrelay ⊢
  intro callback hmem
  exact Callback.isPlain_of_isRelay (hrelay callback hmem)

theorem OrbitServers.callbacks_isPlain (urls : List String) :
    (OrbitServers.callbacks urls).all Callback.isPlain = true :=
  all_isPlain_of_all_isRelay (callbacks_isRelay urls)

/-- What is reported without looking at the state of the adapter is not about measurements. -/
theorem Indication.callbacks_isPlain (indication : Indication) :
    indication.callbacks.all Callback.isPlain = true :=
  all_isPlain_of_all_isRelay indication.callbacks_isRelay

end GnssAdapter
