import Mathlib.Algebra.Ring.Nat
import Mathlib.Data.List.Forall2
import GnssAdapter.Proofs.Exchange
import GnssAdapter.Proofs.Renewal

/-!
The injection of predicted orbits. Data has one split into numbered parts, and they are sent in order,
each once the one before it is acknowledged. The call succeeds if all of them are.
-/

namespace GnssAdapter

/-- Lists of sizes that are all full but the last are told apart by their lengths and sums. -/
theorem eq_of_full {full : Nat} {first second : List Nat} (hlength : first.length = second.length)
    (hfirst : ∀ size ∈ first.dropLast, size = full)
    (hsecond : ∀ size ∈ second.dropLast, size = full) (hsum : first.sum = second.sum) :
    first = second := by
  rcases first.eq_nil_or_concat with rfl | ⟨init, last, rfl⟩
  · exact (List.length_eq_zero_iff.mp hlength.symm).symm
  · rcases second.eq_nil_or_concat with rfl | ⟨others, other, rfl⟩
    · simp at hlength
    · rw [List.concat_eq_append, List.dropLast_concat] at hfirst hsecond
      have hinit : init = others := by
        rw [List.eq_replicate_of_mem hfirst, List.eq_replicate_of_mem hsecond]
        simpa using hlength
      subst hinit
      simpa using hsum

/-- Slices of one size that follow each other make up the beginning of a list. -/
theorem flatMap_slices {α : Type} (list : List α) (size count : Nat) :
    (List.range count).flatMap (fun index =>
        list.extract (index * size) ((index + 1) * size)) = list.take (count * size) := by
  induction count with
  | zero => simp
  | succ count ih =>
      rw [List.range_succ, List.flatMap_append, ih, List.flatMap_singleton,
        List.extract_eq_take_drop, Nat.succ_mul, Nat.add_sub_cancel_left, List.take_add]

namespace OrbitsPart

theorem ext {first second : OrbitsPart} (hsize : first.totalSize = second.totalSize)
    (hcount : first.totalParts = second.totalParts) (hnumber : first.partNum = second.partNum)
    (hdata : first.data = second.data) : first = second := by
  cases first
  cases second
  simp_all

/-- The parts hold the data in order. They are numbered from one, each tells the totals, none is
empty, and all but the last are full. -/
structure Splits (data : ByteArray) (parts : List OrbitsPart) : Prop where
  hcount : parts.length = (data.size + 1023) / 1024
  hnumbers : parts.map (·.partNum.toNat) = List.range' 1 parts.length
  htotals : ∀ part ∈ parts,
    part.totalSize.toNat = data.size ∧ part.totalParts.toNat = parts.length
  hsizes : ∀ part ∈ parts, 0 < part.data.size ∧ part.data.size ≤ 1024
  hfull : ∀ part ∈ parts.dropLast, part.data.size = 1024
  hbytes : parts.flatMap (·.data.data.toList) = data.data.toList

namespace Splits

variable {data : ByteArray} {parts other : List OrbitsPart}

theorem sum_sizes (hsplits : Splits data parts) : (parts.map (·.data.size)).sum = data.size := by
  have hlength := congrArg List.length hsplits.hbytes
  rw [List.length_flatMap, Array.length_toList, ByteArray.size_data] at hlength
  exact hlength

theorem sizes_eq (hsplits : Splits data parts) (hother : Splits data other) :
    parts.map (·.data.size) = other.map (·.data.size) := by
  have hfull {slices : List OrbitsPart} (hslices : Splits data slices) :
      ∀ size ∈ (slices.map (·.data.size)).dropLast, size = 1024 := by
    rw [← List.map_dropLast]
    intro size hsize
    obtain ⟨part, hpart, rfl⟩ := List.mem_map.mp hsize
    exact hslices.hfull part hpart
  refine eq_of_full ?_ (hfull hsplits) (hfull hother)
    (hsplits.sum_sizes.trans hother.sum_sizes.symm)
  rw [List.length_map, List.length_map, hsplits.hcount, hother.hcount]

theorem bytes_eq (hsplits : Splits data parts) (hother : Splits data other) :
    parts.map (·.data.data.toList) = other.map (·.data.data.toList) := by
  rw [List.eq_iff_flatten_eq, List.map_map, List.map_map]
  refine ⟨?_, hsplits.sizes_eq hother⟩
  rw [← List.flatMap_def, ← List.flatMap_def, hsplits.hbytes, hother.hbytes]

/-- There is no other way to split data. -/
theorem unique (hsplits : Splits data parts) (hother : Splits data other) : other = parts := by
  have hlength : other.length = parts.length := hother.hcount.trans hsplits.hcount.symm
  have hnumbers : other.map (·.partNum.toNat) = parts.map (·.partNum.toNat) := by
    rw [hother.hnumbers, hlength, hsplits.hnumbers]
  refine List.ext_getElem hlength fun index hin hinside => ?_
  have hnumber := List.getElem_of_eq hnumbers (by rwa [List.length_map])
  have hbytes := List.getElem_of_eq (hother.bytes_eq hsplits) (by rwa [List.length_map])
  rw [List.getElem_map, List.getElem_map] at hnumber hbytes
  obtain ⟨hsize, hcount⟩ := hother.htotals _ (List.getElem_mem hin)
  obtain ⟨hsize', hcount'⟩ := hsplits.htotals _ (List.getElem_mem hinside)
  refine ext (UInt32.toNat.inj (hsize.trans hsize'.symm))
    (UInt16.toNat.inj (hcount.trans (hlength.trans hcount'.symm))) (UInt16.toNat.inj hnumber) ?_
  exact ByteArray.ext (Array.toList_inj.mp hbytes)

end Splits

variable {data : ByteArray}

/-- A slice is full unless it is the last one, which has what is left. -/
theorem ofIndex_size (data : ByteArray) (index : Nat) :
    (ofIndex data index).data.size = min 1024 (data.size - index * 1024) := by
  unfold ofIndex
  rw [ByteArray.size_extract]
  unfold capacity
  omega

/-- Data that is not empty is split unless it has more parts than can be numbered. -/
theorem splits_slices (hsome : 0 < data.size) (hfew : (data.size + 1023) / 1024 ≤ 65535) :
    Splits data ((List.range (countFor data.size)).map (ofIndex data)) := by
  have hcountFor : countFor data.size = (data.size + 1023) / 1024 := rfl
  have hlength : ((List.range (countFor data.size)).map (ofIndex data)).length =
      countFor data.size := by rw [List.length_map, List.length_range]
  refine ⟨hlength, ?_, ?_, ?_, ?_, ?_⟩
  · rw [hlength, List.map_map, List.range'_eq_map_range]
    refine List.map_congr_left fun index hindex => ?_
    have hbelow := List.mem_range.mp hindex
    change (UInt16.ofNat (index + 1)).toNat = 1 + index
    rw [UInt16.toNat_ofNat']
    omega
  · rw [hlength]
    rintro part hpart
    obtain ⟨index, -, rfl⟩ := List.mem_map.mp hpart
    change (UInt32.ofNat data.size).toNat = _ ∧ (UInt16.ofNat (countFor data.size)).toNat = _
    rw [UInt32.toNat_ofNat', UInt16.toNat_ofNat']
    omega
  · rintro part hpart
    obtain ⟨index, hindex, rfl⟩ := List.mem_map.mp hpart
    have hbelow := List.mem_range.mp hindex
    rw [ofIndex_size]
    omega
  · rintro part hpart
    rw [← List.map_dropLast, List.dropLast_eq_take, List.length_range, List.take_range] at hpart
    obtain ⟨index, hindex, rfl⟩ := List.mem_map.mp hpart
    have hbelow := List.mem_range.mp hindex
    rw [ofIndex_size]
    omega
  · have hslice (index : Nat) : (ofIndex data index).data.data.toList =
        data.data.toList.extract (index * 1024) ((index + 1) * 1024) := by
      unfold ofIndex
      rw [ByteArray.data_extract, Array.toList_extract]
      rfl
    rw [List.flatMap_map]
    simp only [hslice]
    rw [flatMap_slices, List.take_of_length_le]
    rw [Array.length_toList, ByteArray.size_data]
    omega

theorem split?_eq (data : ByteArray) :
    split? data =
      if data.size = 0 ∨ 65535 < (data.size + 1023) / 1024 then none
      else some ((List.range (countFor data.size)).map (ofIndex data)) := by
  unfold split?
  refine if_congr ?_ rfl rfl
  have hcountFor : countFor data.size = (data.size + 1023) / 1024 := rfl
  have hlimit : UInt16.size = 65536 := rfl
  rw [Bool.or_eq_true, decide_eq_true_iff, ByteArray.isEmpty, beq_iff_eq]
  omega

end OrbitsPart

/-! ### Acknowledgements -/

/-- A part was sent, and answered with success and its own number. -/
def Acknowledged (handle : Handle) (part : OrbitsPart) (entry : Entry) : Prop :=
  ∃ response, entry = .requested handle (.injectPredictedOrbits part) (some (.ok response)) ∧
    response.status = .success ∧ response.payload = .predictedOrbitsPart part.partNum

/-- The parts were sent up to one that was not acknowledged. -/
def Halted (handle : Handle) (parts : List OrbitsPart) (sent : List Entry) : Prop :=
  ∃ before part after acknowledgements answer,
    parts = before ++ part :: after ∧
    sent = acknowledgements ++ [.requested handle (.injectPredictedOrbits part) answer] ∧
    List.Forall₂ (Acknowledged handle) before acknowledgements ∧
    ¬Acknowledged handle part (.requested handle (.injectPredictedOrbits part) answer)

theorem acknowledged_iff (handle : Handle) (part : OrbitsPart) (answer : Option Answer) :
    (answer.getD (.error .timeout)).acknowledges part = true ↔
      Acknowledged handle part (.requested handle (.injectPredictedOrbits part) answer) := by
  unfold Answer.acknowledges Acknowledged
  rcases answer with - | error | response
  · simp [Answer.payload?]
  · simp [Answer.payload?]
  · by_cases hsuccess : response.status = .success
    · cases hpayload : response.payload <;>
        simp [Answer.payload?, Verdict.isSuccess, hsuccess, hpayload]
    · simp [Answer.payload?, Verdict.isSuccess, hsuccess]

namespace Halted

variable {handle : Handle} {part : OrbitsPart} {parts : List OrbitsPart} {entry : Entry}
  {sent : List Entry}

theorem cons (hentry : Acknowledged handle part entry) (hhalted : Halted handle parts sent) :
    Halted handle (part :: parts) (entry :: sent) := by
  obtain ⟨before, refused, after, acknowledgements, answer, rfl, rfl, hbefore, hrefused⟩ := hhalted
  exact ⟨part :: before, refused, after, entry :: acknowledgements, answer, rfl, rfl,
    .cons hentry hbefore, hrefused⟩

theorem not_all (hhalted : Halted handle parts sent) :
    ¬List.Forall₂ (Acknowledged handle) parts sent := by
  obtain ⟨before, part, after, acknowledgements, answer, rfl, rfl, hbefore, hrefused⟩ := hhalted
  intro hall
  have hrest := List.forall₂_drop before.length hall
  rw [List.drop_left, hbefore.length_eq, List.drop_left] at hrest
  cases hrest with
  | cons hacknowledged _ => exact hrefused hacknowledged

end Halted

namespace AdapterM

variable {σ : Type} [Environment σ]

/-- Each part is sent once the one before it is acknowledged, and the bytes are counted. -/
theorem injectParts_sent {adapter : Adapter σ} {handle : Handle}
    (hopen : adapter.state.handle = some handle) (parts : List OrbitsPart) (injected : Nat) :
    ∃ entries, ((injectParts parts injected).run adapter).2.history =
        entries ++ adapter.history ∧
      let sent := (entries.filter Entry.isSent).reverse
      let result := ((injectParts parts injected).run adapter).1
      (result = .ok (injected + (parts.map (·.data.size)).sum) ∧
          List.Forall₂ (Acknowledged handle) parts sent) ∨
        (result = .error .generalFailure ∧ Halted handle parts sent) := by
  induction parts generalizing adapter injected with
  | nil => exact ⟨[], rfl, .inl ⟨rfl, .nil⟩⟩
  | cons part rest ih =>
      have hstill : adapter.standing.state.handle = some handle := hopen
      obtain ⟨answer, accepted, hstanding, hanswer⟩ :=
        exchange_standing (.injectPredictedOrbits part) adapter
      obtain ⟨entries, hentries, hsent⟩ :=
        Standing.exchange_sent hstill (.injectPredictedOrbits part) answer accepted
      have hnext : ((exchange (.injectPredictedOrbits part)).run adapter).2.state.handle =
          some handle := by
        rw [← Adapter.standing_state, hstanding, Standing.exchange_handle, hstill]
      have hgained : ((exchange (.injectPredictedOrbits part)).run adapter).2.history =
          entries ++ adapter.history := (congrArg Standing.history hstanding).trans hentries
      unfold injectParts
      rw [run_bind, hanswer (by rw [hopen]; rfl)]
      -- The rest follows only on an acknowledgement; any other answer ends the call.
      by_cases hacknowledged : (answer.getD (.error .timeout)).acknowledges part = true
      · have hfirst := (acknowledged_iff handle part answer).mp hacknowledged
        obtain ⟨later, hlater, hcases⟩ := ih hnext (injected + part.data.size)
        rw [if_pos hacknowledged]
        refine ⟨later ++ entries, by rw [hlater, hgained, List.append_assoc], ?_⟩
        dsimp only
        rw [List.filter_append, hsent, List.reverse_append, List.map_cons, List.sum_cons,
          ← Nat.add_assoc]
        rcases hcases with ⟨hresult, hall⟩ | ⟨hresult, hhalted⟩
        · exact .inl ⟨hresult, .cons hfirst hall⟩
        · exact .inr ⟨hresult, hhalted.cons hfirst⟩
      · rw [if_neg hacknowledged]
        refine ⟨entries, hgained, .inr ⟨rfl, [], part, rest, [], answer, rfl, ?_, .nil, ?_⟩⟩
        · rw [hsent]
          rfl
        · rwa [← acknowledged_iff]

end AdapterM

namespace Adapter

open AdapterM

variable {σ : Type} [Environment σ] {adapter : Adapter σ} {handle : Handle}

/-- Data goes out in the parts of its only split, and each part after the first once the one before it
is acknowledged. The call gives back the size of the data if all parts are acknowledged, and fails
otherwise. Data without a split is refused, and nothing is sent. -/
theorem injectOrbits_exact (hopen : adapter.state.handle = some handle) (data : ByteArray) :
    let action : AdapterAction := .execute (.injectOrbits data)
    if data.size = 0 ∨ 65535 < (data.size + 1023) / 1024 then
      adapter.result? action = some (.error (.location .invalidParameter)) ∧
        adapter.act action = adapter ∧ adapter.sent action = []
    else
      ∃ parts, OrbitsPart.Splits data parts ∧
        (∀ other, OrbitsPart.Splits data other → other = parts) ∧
        (List.Forall₂ (Acknowledged handle) parts (adapter.sent action) ∨
          Halted handle parts (adapter.sent action)) ∧
        (adapter.result? action = some (.ok (.bytes data.size)) ↔
          List.Forall₂ (Acknowledged handle) parts (adapter.sent action)) ∧
        (adapter.result? action = some (.error (.location .generalFailure)) ↔
          Halted handle parts (adapter.sent action)) := by
  intro action
  have hresult : adapter.result? action =
      some (.ofLocation .bytes ((injectOrbits data).run adapter).1) := rfl
  have hact : adapter.act action = ((injectOrbits data).run adapter).2 := rfl
  have hsplit := OrbitsPart.split?_eq data
  unfold injectOrbits at hresult hact
  split
  · rename_i hunsplit
    rw [if_pos hunsplit] at hsplit
    rw [hsplit] at hresult hact
    have hsame : adapter.act action = adapter := hact
    have hnone : (adapter.act action).history = [] ++ adapter.history :=
      congrArg Adapter.history hsame
    exact ⟨hresult, hsame, sent_eq hnone⟩
  · rename_i hsplittable
    rw [if_neg hsplittable] at hsplit
    rw [hsplit] at hresult hact
    dsimp only at hresult hact
    have hsplits := OrbitsPart.splits_slices (show 0 < data.size by omega) (by omega)
    generalize (List.range (OrbitsPart.countFor data.size)).map (OrbitsPart.ofIndex data) = parts
      at hresult hact hsplits
    obtain ⟨entries, hentries, hcases⟩ := injectParts_sent hopen parts 0
    rw [← hact] at hentries
    rw [hsplits.sum_sizes, Nat.zero_add, ← sent_eq hentries] at hcases
    refine ⟨parts, hsplits, fun other => hsplits.unique, ?_⟩
    rcases hcases with ⟨hok, hall⟩ | ⟨herror, hhalted⟩
    · have hnot (hhalted : Halted handle parts (adapter.sent action)) : False :=
        hhalted.not_all hall
      rw [hresult, hok]
      exact ⟨.inl hall, iff_of_true rfl hall, iff_of_false nofun hnot⟩
    · rw [hresult, herror]
      exact ⟨.inr hhalted, iff_of_false nofun hhalted.not_all, iff_of_true rfl hhalted⟩

/-- An engine that acknowledges everything takes a few bytes in one part. -/
theorem injectOrbits_takes_one_part :
    let adapter := obligedAfter [.execute (.connect (.single .niRequest))]
    let data : ByteArray := ⟨#[7, 8, 9]⟩
    let action : AdapterAction := .execute (.injectOrbits data)
    adapter.state.handle = some ⟨1⟩ ∧
      ∃ parts, OrbitsPart.Splits data parts ∧ parts.length = 1 ∧
        List.Forall₂ (Acknowledged ⟨1⟩) parts (adapter.sent action) := by
  have hresult : (obligedAfter [.execute (.connect (.single .niRequest))]).result?
      (.execute (.injectOrbits ⟨#[7, 8, 9]⟩)) = some (.ok (.bytes 3)) := rfl
  intro adapter data action
  have hopen : adapter.state.handle = some ⟨1⟩ := rfl
  have hsize : data.size = 3 := rfl
  have hexact := injectOrbits_exact hopen data
  rw [hsize, if_neg (by decide)] at hexact
  obtain ⟨parts, hsplits, -, -, hall, -⟩ := hexact
  refine ⟨hopen, parts, hsplits, ?_, hall.mp hresult⟩
  rw [hsplits.hcount, hsize]

end Adapter

end GnssAdapter
