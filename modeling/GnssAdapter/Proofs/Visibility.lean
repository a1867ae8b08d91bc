import GnssAdapter.Indication.Visibility
import GnssAdapter.Proofs.Mask

/-!
Visibility reports. Each entry that names its system and a number is reported, in the order of the
list, and nothing else is. Signals are listed by reported satellite, so what a satellite takes is
told by its place in the report and not by that of its entry (`TakesSignal`).
-/

namespace GnssAdapter

instance : LawfulFlag VisibilityOption :=
  .of_nodup (fun flag => by cases flag <;> decide) (by decide) (by decide)

namespace SatelliteInfo

/-- The entry names its system and a number other than zero. -/
def isSighted (info : SatelliteInfo) : Bool :=
  info.system.isSome && info.satelliteId.any (· != 0)

theorem sighted?_eq_some {info : SatelliteInfo} {channel : UInt8} {satellite : SightedSatellite}
    (hsighted : info.sighted? channel = some satellite) :
    info.system = some satellite.system ∧ info.satelliteId = some satellite.id ∧
      satellite.id ≠ 0 ∧ satellite.info = info ∧ satellite.channel = channel := by
  unfold sighted? at hsighted
  split at hsighted
  case h_1 system id hsystem hid =>
    split at hsighted
    · cases hsighted
    · next hnonzero =>
      cases hsighted
      exact ⟨hsystem, hid, hnonzero, rfl, rfl⟩
  case h_2 => cases hsighted

theorem sighted?_isSome (info : SatelliteInfo) (channel : UInt8) :
    (info.sighted? channel).isSome = info.isSighted := by
  unfold sighted? isSighted
  cases info.system with
  | none => rfl
  | some system =>
      cases info.satelliteId with
      | none => rfl
      | some id => by_cases hzero : id = 0 <;> simp [hzero]

/-- A satellite to be reported still holds its entry. -/
theorem sighted?_entry (info : SatelliteInfo) (channel : UInt8) :
    (info.sighted? channel).map (fun satellite => (satellite.info, satellite.channel)) =
      if info.isSighted then some (info, channel) else none := by
  rw [← info.sighted?_isSome channel]
  cases hsighted : info.sighted? channel with
  | none => rfl
  | some satellite =>
      obtain ⟨-, -, -, rfl, rfl⟩ := sighted?_eq_some hsighted
      rfl

theorem options_has (info : SatelliteInfo) (option : VisibilityOption) :
    info.options.has option = true ↔
      option = .hasEphemeris ∧ (info.satelliteInfoMask.getD ∅).has .hasEphemeris = true ∨
        option = .hasAlmanac ∧ (info.satelliteInfoMask.getD ∅).has .hasAlmanac = true := by
  unfold options
  dsimp only
  rw [Mask.has_ofList_iff, List.mem_append]
  cases (info.satelliteInfoMask.getD ∅).has .hasEphemeris <;>
    cases (info.satelliteInfoMask.getD ∅).has .hasAlmanac <;> simp

end SatelliteInfo

namespace SightedSatellite

theorem bare_hasCarrier (satellite : SightedSatellite) :
    satellite.bare.options.has .hasCarrierFrequency = false := by
  rw [← Bool.not_eq_true]
  intro hcarrier
  have hheld := (satellite.info.options_has .hasCarrierFrequency).mp hcarrier
  simp at hheld

theorem withCarrier_has (satellite : SightedSatellite) (frequency : Float32)
    (option : VisibilityOption) :
    (satellite.withCarrier frequency).options.has option = true ↔
      satellite.info.options.has option = true ∨ option = .hasCarrierFrequency := by
  unfold withCarrier
  rw [Mask.has_union, Bool.or_eq_true, Mask.has_single, eq_comm (a := option)]
  rfl

theorem withCarrier_hasCarrier (satellite : SightedSatellite) (frequency : Float32) :
    (satellite.withCarrier frequency).options.has .hasCarrierFrequency = true :=
  (satellite.withCarrier_has frequency _).mpr (.inr rfl)

end SightedSatellite

/-- What a satellite of a report takes from the signals of the indication: its own signal, no signal
where the list has none for its place, or the default signal's carrier where there is no list. -/
inductive TakesSignal (signals : Option (List (Mask Signal))) (index : Nat) (channel : UInt8)
    (satellite : VisibleSatellite) : Prop where
  | own (list : List (Mask Signal)) (hlist : signals = some list)
      (hlisted : list[index]? = some satellite.signal) (hsignal : satellite.signal ≠ ∅)
      (hcarrier : satellite.carrierFrequencyHz = Signal.carrierOf satellite.signal channel)
      (hoption : satellite.options.has .hasCarrierFrequency = true)
  | missing (list : List (Mask Signal)) (hlist : signals = some list)
      (hlisted : ∀ signal, list[index]? = some signal → signal = ∅)
      (hsignal : satellite.signal = ∅) (hcarrier : satellite.carrierFrequencyHz = 0)
      (hoption : satellite.options.has .hasCarrierFrequency = false)
  | assumed (hlist : signals = none) (hsignal : satellite.signal = ∅)
      (hcarrier : satellite.carrierFrequencyHz =
        Signal.carrierOf satellite.constellation.defaultSignal 0)
      (hoption : satellite.options.has .hasCarrierFrequency = true)

/-- The satellite of a report is that of an entry, apart from its signal. -/
structure ShowsEntry (info : SatelliteInfo) (satellite : VisibleSatellite) : Prop where
  hidentity : ∃ system id, info.system = some system ∧ info.satelliteId = some id ∧ id ≠ 0 ∧
    system.visible id = (satellite.constellation, satellite.satelliteId)
  hcn0 : satellite.cn0Dbhz = info.snr.getD 0
  helevation : satellite.elevation = info.elevation.getD 0
  hazimuth : satellite.azimuth = info.azimuth.getD 0
  hheld : ∀ option ≠ VisibilityOption.hasCarrierFrequency,
    satellite.options.has option = info.options.has option

namespace SightedSatellite

/-- A satellite is reported with its own signal, bare where the list has none for its place, or with
the default carrier where there is no list. -/
theorem report_cases (satellite : SightedSatellite) (signals : Option (List (Mask Signal)))
    (index : Nat) :
    (∃ list signal, signals = some list ∧ list[index]? = some signal ∧ signal ≠ ∅ ∧
        satellite.report signals index =
          { satellite.withCarrier (Signal.carrierOf signal satellite.channel) with signal }) ∨
      (∃ list, signals = some list ∧ (∀ signal, list[index]? = some signal → signal = ∅) ∧
        satellite.report signals index = satellite.bare) ∨
      signals = none ∧ satellite.report signals index = satellite.withCarrier
        (Signal.carrierOf satellite.bare.constellation.defaultSignal 0) := by
  unfold report
  cases signals with
  | none => exact .inr (.inr ⟨rfl, rfl⟩)
  | some list =>
      dsimp only
      cases htaken : list[index]?.bind Mask.nonempty? with
      | none =>
          refine .inr (.inl ⟨list, rfl, fun signal hsignal => ?_, rfl⟩)
          rw [hsignal] at htaken
          exact Mask.nonempty?_eq_none_iff.mp htaken
      | some signal =>
          obtain ⟨listed, hlisted, hsome⟩ := Option.bind_eq_some_iff.mp htaken
          obtain ⟨hsignal, rfl⟩ := Mask.nonempty?_eq_some_iff.mp hsome
          exact .inl ⟨list, listed, rfl, hlisted, hsignal, rfl⟩

theorem report_takesSignal (satellite : SightedSatellite)
    (signals : Option (List (Mask Signal))) (index : Nat) :
    TakesSignal signals index satellite.channel (satellite.report signals index) := by
  rcases satellite.report_cases signals index with
    ⟨list, signal, hlist, hlisted, hsignal, hreport⟩ | ⟨list, hlist, hlisted, hreport⟩ |
      ⟨hlist, hreport⟩
  · rw [hreport]
    exact .own list hlist hlisted hsignal rfl
      (satellite.withCarrier_hasCarrier (Signal.carrierOf signal satellite.channel))
  · rw [hreport]
    exact .missing list hlist hlisted rfl rfl satellite.bare_hasCarrier
  · rw [hreport]
    exact .assumed hlist rfl rfl (satellite.withCarrier_hasCarrier _)

end SightedSatellite

/-- A carrier is told unless the list has no signal for the satellite's place. -/
theorem TakesSignal.hasCarrier_iff {signals : Option (List (Mask Signal))} {index : Nat}
    {channel : UInt8} {satellite : VisibleSatellite}
    (htakes : TakesSignal signals index channel satellite) :
    satellite.options.has .hasCarrierFrequency = true ↔
      ∀ list, signals = some list → ∃ signal, list[index]? = some signal ∧ signal ≠ ∅ := by
  cases htakes with
  | own list hlist hlisted hsignal hcarrier hoption =>
      refine iff_of_true hoption fun other hother => ⟨satellite.signal, ?_, hsignal⟩
      rw [hlist] at hother
      cases hother
      exact hlisted
  | missing list hlist hlisted hsignal hcarrier hoption =>
      refine iff_of_false (Bool.eq_false_iff.mp hoption) fun hall => ?_
      obtain ⟨signal, hsome, hnonempty⟩ := hall list hlist
      exact hnonempty (hlisted signal hsome)
  | assumed hlist hsignal hcarrier hoption =>
      refine iff_of_true hoption fun list hsome => ?_
      rw [hlist] at hsome
      cases hsome

namespace ShowsEntry

variable {info : SatelliteInfo} {channel : UInt8} {satellite : SightedSatellite}

theorem bare (hsighted : info.sighted? channel = some satellite) :
    ShowsEntry info satellite.bare := by
  obtain ⟨hsystem, hid, hnonzero, rfl, -⟩ := SatelliteInfo.sighted?_eq_some hsighted
  exact ⟨⟨_, _, hsystem, hid, hnonzero, rfl⟩, rfl, rfl, rfl, fun _ _ => rfl⟩

theorem withCarrier (hsighted : info.sighted? channel = some satellite) (frequency : Float32) :
    ShowsEntry info (satellite.withCarrier frequency) := by
  have hbare := bare hsighted
  refine ⟨hbare.hidentity, hbare.hcn0, hbare.helevation, hbare.hazimuth, fun option hother => ?_⟩
  rw [← hbare.hheld option hother, Bool.eq_iff_iff, satellite.withCarrier_has]
  exact or_iff_left hother

theorem report (hsighted : info.sighted? channel = some satellite)
    (signals : Option (List (Mask Signal))) (index : Nat) :
    ShowsEntry info (satellite.report signals index) := by
  rcases satellite.report_cases signals index with
    ⟨-, signal, -, -, -, hreport⟩ | ⟨-, -, -, hreport⟩ | ⟨-, hreport⟩
  · rw [hreport]
    have hcarried := withCarrier hsighted (Signal.carrierOf signal satellite.channel)
    exact ⟨hcarried.hidentity, hcarried.hcn0, hcarried.helevation, hcarried.hazimuth,
      hcarried.hheld⟩
  · rw [hreport]
    exact bare hsighted
  · rw [hreport]
    exact withCarrier hsighted _

end ShowsEntry

namespace SatelliteInfoIndication

/-- The satellites to be reported are the entries that are sighted, with their channels. -/
theorem sighted_entries (indication : SatelliteInfoIndication) :
    indication.sighted.map (fun satellite => (satellite.info, satellite.channel)) =
      indication.entries.filter (·.1.isSighted) := by
  unfold sighted
  rw [List.map_filterMap, ← List.filterMap_eq_filter]
  exact List.filterMap_congr fun entry _ => entry.1.sighted?_entry entry.2

theorem report_getElem? (indication : SatelliteInfoIndication) (index : Nat) :
    indication.report.satellites[index]? =
      indication.sighted[index]?.map (·.report indication.signals index) := by
  unfold report
  rw [List.getElem?_map, List.getElem?_zipIdx, Option.map_map, Nat.zero_add]
  rfl

theorem length_report (indication : SatelliteInfoIndication) :
    indication.report.satellites.length =
      (indication.entries.filter (·.1.isSighted)).length := by
  rw [← indication.sighted_entries, List.length_map]
  unfold report
  rw [List.length_map, List.length_zipIdx]

/-- The satellite that is reported at a place comes from the sighted entry at that place. -/
theorem exists_sighted {indication : SatelliteInfoIndication} {index : Nat} {info : SatelliteInfo}
    {channel : UInt8}
    (hentry : (indication.entries.filter (·.1.isSighted))[index]? = some (info, channel)) :
    ∃ satellite, indication.sighted[index]? = some satellite ∧ satellite.channel = channel ∧
      info.sighted? channel = some satellite := by
  rw [← indication.sighted_entries, List.getElem?_map, Option.map_eq_some_iff] at hentry
  obtain ⟨satellite, hsatellite, heq⟩ := hentry
  cases heq
  refine ⟨satellite, hsatellite, rfl, ?_⟩
  obtain ⟨⟨other, channel⟩, -, hsighted⟩ :=
    List.mem_filterMap.mp (List.mem_of_getElem? hsatellite)
  obtain ⟨-, -, -, rfl, rfl⟩ := SatelliteInfo.sighted?_eq_some hsighted
  exact hsighted

/-- A report shows the sighted entries in their order: those of the expanded list if there is one,
else those of the plain list. Each takes the signal that is listed for its place in the report, on
the channel of its own entry. -/
theorem report_exact (indication : SatelliteInfoIndication) :
    (∀ expanded, indication.expandedSatellites = some expanded →
        indication.entries = expanded.map fun entry => (entry.info, entry.glonassFrequency)) ∧
      (indication.expandedSatellites = none →
        indication.entries = (indication.satellites.getD []).map (·, 0)) ∧
      indication.report.satellites.length =
        (indication.entries.filter (·.1.isSighted)).length ∧
      (∀ index info channel,
        (indication.entries.filter (·.1.isSighted))[index]? = some (info, channel) →
          ∃ satellite, indication.report.satellites[index]? = some satellite ∧
            ShowsEntry info satellite ∧
            TakesSignal indication.signals index channel satellite ∧
            (satellite.options.has .hasCarrierFrequency = true ↔
              ∀ list, indication.signals = some list →
                ∃ signal, list[index]? = some signal ∧ signal ≠ ∅)) ∧
      indication.report.signalTypeValid = indication.signals.isSome := by
  refine ⟨?expanded, ?plain, indication.length_report, ?shown, rfl⟩
  case expanded =>
    intro expanded hexpanded
    unfold entries
    rw [hexpanded]
  case plain =>
    intro hnone
    unfold entries
    rw [hnone]
    cases indication.satellites <;> rfl
  case shown =>
    intro index info channel hentry
    obtain ⟨satellite, hsatellite, rfl, hsighted⟩ := exists_sighted hentry
    have htakes := satellite.report_takesSignal indication.signals index
    refine ⟨_, ?_, .report hsighted indication.signals index, htakes, htakes.hasCarrier_iff⟩
    rw [report_getElem?, hsatellite]
    rfl

/-- The first entry has no number, so the second one takes the first signal. -/
example :
    ({ satellites := some [{ system := some .gps, satelliteId := some 0 },
          { system := some .gps, satelliteId := some 5 },
          { system := some .qzss, satelliteId := some 194 }]
       signals := some [.single .gpsL5Q, ∅] } :
        SatelliteInfoIndication).report.satellites.map
      (fun satellite => (satellite.constellation, satellite.satelliteId, satellite.signal)) =
        [(.gps, 5, .single .gpsL5Q), (.qzss, 2, ∅)] := by
  decide

end SatelliteInfoIndication

end GnssAdapter
