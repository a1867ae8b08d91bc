import Mathlib.Data.List.Forall2
import GnssAdapter.Proofs.Exchange

/-!
The installation of certificates. The selected slots take the certificates in order, each slot one and
each certificate at most once, up to the first empty certificate. All slots from there on are cleared,
whatever certificates are left.
-/

namespace GnssAdapter

namespace Certificate

/-- A slot can hold the certificate. -/
def IsInstallable (certificate : Certificate) : Prop :=
  0 < certificate.data.size ∧ certificate.data.size ≤ 2000

/-- How many certificates there are before the first empty one. -/
def countTaken (certificates : List Certificate) : Nat :=
  (certificates.takeWhile fun certificate => !certificate.data.isEmpty).length

theorem isEmpty_iff (certificate : Certificate) :
    certificate.data.isEmpty = true ↔ certificate.data.size = 0 := by
  rw [ByteArray.isEmpty, beq_iff_eq]

theorem countTaken_le (certificates : List Certificate) :
    countTaken certificates ≤ certificates.length :=
  (List.takeWhile_sublist _).length_le

theorem countTaken_cons (certificate : Certificate) (rest : List Certificate) :
    countTaken (certificate :: rest) =
      if certificate.data.size = 0 then 0 else countTaken rest + 1 := by
  unfold countTaken
  rw [List.takeWhile_cons]
  by_cases hempty : certificate.data.size = 0
  · simp [(isEmpty_iff certificate).mpr hempty, hempty]
  · simp [mt (isEmpty_iff certificate).mp hempty, hempty]

/-- The certificates that a slot can hold are all taken unless one of them comes after an empty
one. -/
theorem installable_taken_iff (certificates : List Certificate) :
    (∀ place certificate, certificates[place]? = some certificate → certificate.IsInstallable →
        place < countTaken certificates) ↔
      certificates.Pairwise fun earlier later => later.IsInstallable → earlier.data.size ≠ 0 := by
  induction certificates with
  | nil => simp
  | cons certificate rest ih =>
      rw [List.pairwise_cons, ← ih, countTaken_cons]
      by_cases hempty : certificate.data.size = 0
      · rw [if_pos hempty]
        constructor
        · intro htaken
          refine ⟨fun later hlater hinstallable => ?_, fun place later hlater hinstallable => ?_⟩
          · obtain ⟨place, hplace⟩ := List.mem_iff_getElem?.mp hlater
            exact absurd (htaken (place + 1) later hplace hinstallable) (Nat.not_lt_zero _)
          · exact absurd (htaken (place + 1) later hlater hinstallable) (Nat.not_lt_zero _)
        · rintro ⟨hnone, -⟩ place later hlater hinstallable
          cases place with
          | zero =>
              cases Option.some.inj hlater
              exact absurd hempty (Nat.ne_of_gt hinstallable.1)
          | succ place =>
              exact absurd hempty (hnone later (List.mem_of_getElem? hlater) hinstallable)
      · rw [if_neg hempty]
        constructor
        · intro htaken
          refine ⟨fun _ _ _ => hempty, fun place later hlater hinstallable => ?_⟩
          exact Nat.lt_of_succ_lt_succ (htaken (place + 1) later hlater hinstallable)
        · rintro ⟨-, htaken⟩ place later hlater hinstallable
          cases place with
          | zero => exact Nat.succ_pos _
          | succ place => exact Nat.succ_lt_succ (htaken place later hlater hinstallable)

end Certificate

open Certificate (countTaken)

namespace SlotStep

/-- The step for a slot that takes the certificate at a place, or none. -/
def taking (certificates : List Certificate) (place : Option Nat) : SlotStep :=
  ((place.bind fun index => certificates[index]?).map ofCertificate).getD .clear

/-- The certificates left are taken in order until an empty one comes. -/
theorem plan_eq (slots : List UInt8) (used left : List Certificate) :
    ∃ uses : List (UInt8 × Option Nat), uses.map (·.1) = slots ∧
      uses.filterMap (·.2) = List.range' used.length (min slots.length (countTaken left)) ∧
      plan slots left = uses.map fun use => (use.1, taking (used ++ left) use.2) := by
  fun_induction plan slots left generalizing used with
  | case1 left => exact ⟨[], rfl, by simp, rfl⟩
  | case2 slot slots ih =>
      obtain ⟨uses, hslots, hplaces, hplan⟩ := ih used
      refine ⟨(slot, none) :: uses, by simp [hslots], ?_, by simp [hplan, taking]⟩
      simpa [countTaken] using hplaces
  | case3 slot slots certificate rest hempty ih =>
      obtain ⟨uses, hslots, hplaces, hplan⟩ := ih used
      have hnone : countTaken (certificate :: rest) = 0 := by
        rw [Certificate.countTaken_cons, if_pos ((Certificate.isEmpty_iff _).mp hempty)]
      refine ⟨(slot, none) :: uses, by simp [hslots], ?_, by simp [hplan, taking]⟩
      simpa [hnone] using hplaces
  | case4 slot slots certificate rest hsome ih =>
      obtain ⟨uses, hslots, hplaces, hplan⟩ := ih (used ++ [certificate])
      have hnext : countTaken (certificate :: rest) = countTaken rest + 1 := by
        rw [Certificate.countTaken_cons, if_neg (mt (Certificate.isEmpty_iff _).mpr hsome)]
      refine ⟨(slot, some used.length) :: uses, by simp [hslots], ?_, ?_⟩
      · rw [List.length_append, List.length_singleton] at hplaces
        rw [hnext, List.length_cons, Nat.add_min_add_right, List.range'_succ, ← hplaces]
        rfl
      · rw [List.append_assoc, List.singleton_append] at hplan
        rw [hplan, List.map_cons]
        simp [taking]

theorem selected_toNat (mask : UInt32) :
    (selected mask).map UInt8.toNat = (List.range 10).filter mask.toNat.testBit := by
  unfold selected
  rw [List.map_map]
  refine (List.map_congr_left fun slot hslot => ?_).trans (List.map_id _)
  have hbelow := List.mem_range.mp (List.mem_of_mem_filter hslot)
  change (UInt8.ofNat slot).toNat = slot
  rw [UInt8.toNat_ofNat']
  unfold slotCount at hbelow
  omega

end SlotStep

/-! ### What the slots are sent -/

/-- A slot is sent some data. -/
def Injects (handle : Handle) (slot : UInt8) (data : ByteArray) (sent : List Entry) : Prop :=
  ∃ answer, sent = [.requested handle (.injectCertificate { slot, data }) answer]

/-- A slot is sent a single byte, which is deleted again. -/
def Clears (handle : Handle) (slot : UInt8) (sent : List Entry) : Prop :=
  ∃ injected deleted, sent =
    [.requested handle (.injectCertificate { slot, data := ⟨#[1]⟩ }) injected,
      .requested handle (.deleteCertificate slot) deleted]

/-- What is sent for a slot that takes the certificate at a place of the list, or none. A certificate
that is too long is taken as well, but nothing is sent. -/
def ServesSlot (handle : Handle) (certificates : List Certificate) (use : UInt8 × Option Nat)
    (sent : List Entry) : Prop :=
  match use.2 with
  | some place => ∃ certificate, certificates[place]? = some certificate ∧
      if 2000 < certificate.data.size then sent = []
      else Injects handle use.1 certificate.data sent
  | none => Clears handle use.1 sent

/-- What is sent for a step of the plan. -/
def SlotStep.Sends (handle : Handle) (slot : UInt8) (sent : List Entry) : SlotStep → Prop
  | .inject certificate => Injects handle slot certificate.data sent
  | .skip => sent = []
  | .clear => Clears handle slot sent

theorem SlotStep.servesSlot {handle : Handle} {certificates : List Certificate}
    {use : UInt8 × Option Nat} {sent : List Entry}
    (hwithin : ∀ place ∈ use.2, place < certificates.length)
    (hsends : (taking certificates use.2).Sends handle use.1 sent) :
    ServesSlot handle certificates use sent := by
  rcases use with ⟨slot, - | place⟩
  · exact hsends
  · have hfound := List.getElem?_eq_getElem (hwithin place rfl)
    refine ⟨_, hfound, ?_⟩
    simp only [taking, Option.bind_some, hfound, Option.map_some, Option.getD_some,
      ofCertificate] at hsends
    unfold longest at hsends
    split at hsends
    · rename_i hlong
      rwa [if_pos hlong]
    · rename_i hshort
      rwa [if_neg hshort]

namespace AdapterM

variable {σ α : Type} {handle : Handle}

/-- On an open connection, which stays open, an operation sends something that fits. -/
def Sends (handle : Handle) (fits : List Entry → Prop) (operation : AdapterM σ α) : Prop :=
  ∀ adapter, adapter.state.handle = some handle →
    (operation.run adapter).2.state.handle = some handle ∧
      ∃ entries, (operation.run adapter).2.history = entries ++ adapter.history ∧
        fits (entries.filter Entry.isSent).reverse

namespace Sends

variable {fits next : List Entry → Prop} {operation : AdapterM σ α}

theorem pure (value : α) : Sends handle (· = []) (pure value : AdapterM σ α) :=
  fun _ hopen => ⟨hopen, [], rfl, rfl⟩

theorem imp (hoperation : Sends handle fits operation) (himp : ∀ sent, fits sent → next sent) :
    Sends handle next operation := by
  intro adapter hopen
  obtain ⟨hstill, entries, hentries, hfits⟩ := hoperation adapter hopen
  exact ⟨hstill, entries, hentries, himp _ hfits⟩

theorem bind {β : Type} {rest : α → AdapterM σ β} (hfirst : Sends handle fits operation)
    (hrest : ∀ value, Sends handle next (rest value)) :
    Sends handle (fun sent => ∃ before after, fits before ∧ next after ∧ sent = before ++ after)
      (operation >>= rest) := by
  intro adapter hopen
  obtain ⟨hstill, first, hfirst, hfits⟩ := hfirst adapter hopen
  obtain ⟨hlast, second, hsecond, hnext⟩ := hrest (operation.run adapter).1 _ hstill
  refine ⟨hlast, second ++ first, ?_, _, _, hfits, hnext, ?_⟩
  · rw [run_bind, hsecond, hfirst, List.append_assoc]
  · rw [List.filter_append, List.reverse_append]

theorem discard (hoperation : Sends handle fits operation) :
    Sends handle fits (discard operation) :=
  hoperation

/-- A loop sends what its rounds send, one after the other. -/
theorem forM {β : Type} {fits : β → List Entry → Prop} {operation : β → AdapterM σ PUnit}
    (hoperation : ∀ item, Sends handle (fits item) (operation item)) (items : List β) :
    Sends handle (fun sent => ∃ parts, List.Forall₂ fits items parts ∧ sent = parts.flatten)
      (items.forM operation) := by
  induction items with
  | nil => exact (pure _).imp fun sent hnone => ⟨[], .nil, hnone⟩
  | cons item rest ih =>
      refine ((hoperation item).bind fun _ => ih).imp ?_
      rintro sent ⟨before, after, hbefore, ⟨parts, hparts, rfl⟩, rfl⟩
      exact ⟨before :: parts, .cons hbefore hparts, rfl⟩

variable [Environment σ]

theorem exchange (request : Request) :
    Sends handle (fun sent => ∃ answer, sent = [.requested handle request answer])
      (exchange request : AdapterM σ Answer) := by
  intro adapter hopen
  have hstill : adapter.standing.state.handle = some handle := hopen
  obtain ⟨answer, accepted, hstanding, -⟩ := exchange_standing request adapter
  obtain ⟨entries, hentries, hsent⟩ := Standing.exchange_sent hstill request answer accepted
  refine ⟨?_, entries, (congrArg Standing.history hstanding).trans hentries, answer, ?_⟩
  · rw [← Adapter.standing_state, hstanding, Standing.exchange_handle, hstill]
  · rw [hsent, List.reverse_singleton]

theorem installSlot (slot : UInt8) (step : SlotStep) :
    Sends handle (fun sent => step.Sends handle slot sent)
      (installSlot slot step : AdapterM σ Unit) := by
  cases step with
  | inject certificate => exact (exchange _).discard
  | skip => exact pure _
  | clear =>
      refine ((exchange _).discard.bind fun _ => (exchange _).discard).imp ?_
      rintro sent ⟨_, _, ⟨injected, rfl⟩, ⟨deleted, rfl⟩, rfl⟩
      exact ⟨injected, deleted, rfl⟩

end Sends

end AdapterM

namespace Adapter

open AdapterM

variable {σ : Type} [Environment σ] {adapter : Adapter σ} {handle : Handle}

/-- What is sent for the plan, step by step. -/
theorem sent_installCertificates (hopen : adapter.state.handle = some handle)
    (certificates : List Certificate) (mask : UInt32) :
    ∃ served, List.Forall₂ (fun item sent => item.2.Sends handle item.1 sent)
        (SlotStep.plan (SlotStep.selected mask) certificates) served ∧
      adapter.sent (.execute (.installCertificates certificates mask)) = served.flatten := by
  have hstep (item : UInt8 × SlotStep) : Sends handle (item.2.Sends handle item.1)
      (AdapterM.installSlot item.1 item.2 : AdapterM σ Unit) :=
    Sends.installSlot item.1 item.2
  obtain ⟨-, entries, hentries, served, hserved, hsent⟩ :=
    Sends.forM hstep (SlotStep.plan (SlotStep.selected mask) certificates) adapter hopen
  refine ⟨served, hserved, ?_⟩
  rw [← hsent]
  exact sent_eq hentries

/-- The selected slots are served in ascending order. They take the certificates in order, each slot
one, up to the first that is empty. If there are slots enough, every certificate that a slot can hold is
installed exactly once exactly if none of them comes after an empty one. -/
theorem installCertificates_serves (hopen : adapter.state.handle = some handle)
    (certificates : List Certificate) (mask : UInt32) :
    ∃ uses : List (UInt8 × Option Nat),
      uses.map (·.1.toNat) = (List.range 10).filter mask.toNat.testBit ∧
      uses.filterMap (·.2) = List.range (min uses.length (countTaken certificates)) ∧
      (∃ served, List.Forall₂ (ServesSlot handle certificates) uses served ∧
        adapter.sent (.execute (.installCertificates certificates mask)) = served.flatten) ∧
      (certificates.length ≤ uses.length →
        ((∀ place certificate, certificates[place]? = some certificate →
            certificate.IsInstallable → (uses.filterMap (·.2)).count place = 1) ↔
          certificates.Pairwise fun earlier later =>
            later.IsInstallable → earlier.data.size ≠ 0)) := by
  obtain ⟨uses, hslots, hplaces, hplan⟩ :=
    SlotStep.plan_eq (SlotStep.selected mask) [] certificates
  have hlength : (SlotStep.selected mask).length = uses.length := by
    rw [← hslots, List.length_map]
  rw [List.nil_append] at hplan
  rw [List.length_nil, ← List.range_eq_range', hlength] at hplaces
  have hwithin : ∀ use ∈ uses, ∀ place ∈ use.2, place < certificates.length := by
    intro use huse place hplace
    have hmem : place ∈ uses.filterMap (·.2) := List.mem_filterMap.mpr ⟨use, huse, hplace⟩
    rw [hplaces, List.mem_range] at hmem
    have htaken := Certificate.countTaken_le certificates
    omega
  refine ⟨uses, ?_, hplaces, ?_, fun henough => ?_⟩
  · rw [← SlotStep.selected_toNat, ← hslots, List.map_map]
    rfl
  · obtain ⟨served, hserved, hsent⟩ := sent_installCertificates hopen certificates mask
    rw [hplan, List.forall₂_map_left_iff] at hserved
    refine ⟨served, ?_, hsent⟩
    refine ((List.forall₂_and_left ..).mpr ⟨hwithin, hserved⟩).imp ?_
    rintro use sent ⟨hplace, hstep⟩
    exact SlotStep.servesSlot hplace hstep
  · rw [← Certificate.installable_taken_iff]
    have hall : min uses.length (countTaken certificates) = countTaken certificates :=
      Nat.min_eq_right (Nat.le_trans (Certificate.countTaken_le certificates) henough)
    have hcount (place : Nat) : (uses.filterMap (·.2)).count place = 1 ↔
        place < countTaken certificates := by
      rw [hplaces, hall, List.nodup_range.count]
      simp [List.mem_range]
    simp only [hcount]

/-- Of two slots the first takes the only certificate, and the other is cleared. -/
theorem installCertificates_serves_two :
    let adapter := obligedAfter [.execute (.connect (.single .niRequest))]
    let certificates : List Certificate := [⟨⟨#[48, 130]⟩⟩]
    adapter.state.handle = some ⟨1⟩ ∧
      ∃ uses : List (UInt8 × Option Nat), uses.map (·.1.toNat) = [1, 4] ∧
        uses.filterMap (·.2) = [0] ∧
        ∃ served, List.Forall₂ (ServesSlot ⟨1⟩ certificates) uses served ∧
          adapter.sent (.execute (.installCertificates certificates 18)) = served.flatten := by
  intro adapter certificates
  have hopen : adapter.state.handle = some ⟨1⟩ := rfl
  obtain ⟨uses, hslots, hplaces, hserved, -⟩ :=
    installCertificates_serves hopen certificates 18
  have hselected : (List.range 10).filter (18 : UInt32).toNat.testBit = [1, 4] := by decide
  rw [hselected] at hslots
  have hlength : uses.length = 2 := by
    rw [← List.length_map, hslots]
    rfl
  rw [hlength] at hplaces
  exact ⟨hopen, uses, hslots, hplaces, hserved⟩

/-- An empty certificate keeps the one after it from being installed: both slots are cleared. -/
theorem installCertificates_clears_all :
    let adapter := obligedAfter [.execute (.connect (.single .niRequest))]
    let certificates : List Certificate := [⟨⟨#[]⟩⟩, ⟨⟨#[48, 130]⟩⟩]
    adapter.state.handle = some ⟨1⟩ ∧
      (List.range 10).filter (3 : UInt32).toNat.testBit = [0, 1] ∧
      (∃ certificate, certificates[1]? = some certificate ∧ certificate.IsInstallable) ∧
      ∃ served, List.Forall₂ (Clears ⟨1⟩) [0, 1] served ∧
        adapter.sent (.execute (.installCertificates certificates 3)) = served.flatten := by
  intro adapter certificates
  have hopen : adapter.state.handle = some ⟨1⟩ := rfl
  obtain ⟨served, hserved, hsent⟩ := sent_installCertificates hopen certificates 3
  have hplan : SlotStep.plan (SlotStep.selected 3) certificates =
      [0, 1].map fun slot => (slot, .clear) := rfl
  rw [hplan, List.forall₂_map_left_iff] at hserved
  refine ⟨hopen, by decide, ⟨_, rfl, ?_⟩, served, hserved, hsent⟩
  unfold Certificate.IsInstallable
  decide

end Adapter

end GnssAdapter
