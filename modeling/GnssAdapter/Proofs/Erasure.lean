import Mathlib.Data.Option.Basic
import GnssAdapter.Proofs.Mask
import GnssAdapter.Aiding.Deletion

/-!
What the two deletion requests delete.

A request is read by what its words mean to the engine: data of a kind for a satellite, common data
of a kind, or an entry of the cell database. Each word of either vocabulary has one meaning, given
here apart from the tables that choose the words, so that a table with a wrong row makes a request
delete something that was not asked for. Both requests are characterized exactly, and the older one
deletes a part of what the other deletes.
-/

namespace GnssAdapter

instance : LawfulFlag AidingSatelliteData :=
  .of_nodup (fun flag => by cases flag <;> decide) (by decide) (by decide)

instance : LawfulFlag AidingConstellation :=
  .of_nodup (fun flag => by cases flag <;> decide) (by decide) (by decide)

instance : LawfulFlag AidingCommonData :=
  .of_nodup (fun flag => by cases flag <;> decide) (by decide) (by decide)

instance : LawfulFlag DeletedSatelliteData :=
  .of_nodup (fun flag => by cases flag <;> decide) (by decide) (by decide)

instance : LawfulFlag DeletedCommonData :=
  .of_nodup (fun flag => by cases flag <;> decide) (by decide) (by decide)

instance : LawfulFlag DeletedCellData :=
  .of_nodup (fun flag => by cases flag <;> decide) (by decide) (by decide)

instance : LawfulFlag DeletedGnssData :=
  .of_nodup (fun flag => by cases flag <;> decide) (by decide) (by decide)

instance : LawfulFlag DeletedSvInfo :=
  .of_nodup (fun flag => by cases flag <;> decide) (by decide) (by decide)

instance : LawfulFlag ReportConstellation :=
  .of_nodup (fun flag => by cases flag <;> decide) (by decide) (by decide)

/-! ### The meaning of the requests -/

/-- What can be deleted. -/
inductive AidingItem where
  | satellite (constellation : AidingConstellation) (number : UInt16) (kind : AidingSatelliteData)
  | common (kind : AidingCommonData)
  | cell (entry : DeletedCellData)

def ReportConstellation.aiding : ReportConstellation → AidingConstellation
  | .gps => .gps
  | .glonass => .glonass
  | .bds => .beidou
  | .galileo => .galileo
  | .qzss => .qzss

def SatelliteSystem.aiding? : SatelliteSystem → Option AidingConstellation
  | .gps => some .gps
  | .glonass => some .glonass
  | .compass | .bds => some .beidou
  | .galileo => some .galileo
  | .qzss => some .qzss
  | .sbas | .unknown => none

def DeletedSatelliteData.aiding : DeletedSatelliteData → AidingSatelliteData
  | .ephemeris => .ephemeris
  | .almanac => .almanac
  | .health => .health
  | .direction => .direction
  | .steer => .steer
  | .almanacCorr => .almanacCorr
  | .blacklist => .blacklist
  | .saData => .saData
  | .noExist => .noExist
  | .ionosphere => .ionosphere
  | .time => .time
  | .mbData => .mbData

def DeletedCommonData.aiding : DeletedCommonData → AidingCommonData
  | .position => .position
  | .time => .time
  | .utc => .utc
  | .rti => .rti
  | .frequencyBias => .frequencyBias

def DeletedSvInfo.aiding : DeletedSvInfo → AidingSatelliteData
  | .ephemeris => .ephemeris
  | .almanac => .almanac

/-- The words of the older deletion stand for data of all satellites of a constellation, or for
common data. It knows selective availability, the ionosphere and health for GPS only. -/
def DeletedGnssData.aiding :
    DeletedGnssData → (AidingConstellation × AidingSatelliteData) ⊕ AidingCommonData
  | .gpsDirection => .inl (.gps, .direction)
  | .gpsSteer => .inl (.gps, .steer)
  | .gpsTime => .inl (.gps, .time)
  | .gpsAlmanacCorr => .inl (.gps, .almanacCorr)
  | .glonassDirection => .inl (.glonass, .direction)
  | .glonassSteer => .inl (.glonass, .steer)
  | .glonassTime => .inl (.glonass, .time)
  | .glonassAlmanacCorr => .inl (.glonass, .almanacCorr)
  | .saData => .inl (.gps, .saData)
  | .ionosphere => .inl (.gps, .ionosphere)
  | .health => .inl (.gps, .health)
  | .position => .inr .position
  | .time => .inr .time
  | .utc => .inr .utc
  | .rti => .inr .rti

/-- Satellite data is deleted for all satellites of each constellation. -/
def ServiceDataDeletion.Deletes (request : ServiceDataDeletion) (item : AidingItem) : Prop :=
  request.deleteAll = true ∨
    match item with
    | .satellite constellation _ kind =>
        ∃ part ∈ request.satelliteData,
          (∃ system, part.system.has system = true ∧ system.aiding = constellation) ∧
          ∃ word, part.dataMask.has word = true ∧ word.aiding = kind
    | .common kind =>
        ∃ mask ∈ request.commonData, ∃ word, mask.has word = true ∧ word.aiding = kind
    | .cell entry => ∃ mask ∈ request.cellData, mask.has entry = true

/-- Satellite data is deleted for the satellites listed, or for a whole constellation. -/
def AssistDataDeletion.Deletes (request : AssistDataDeletion) (item : AidingItem) : Prop :=
  request.deleteAll = true ∨
    match item with
    | .satellite constellation number kind =>
        (∃ listed ∈ request.info,
          listed.system.aiding? = some constellation ∧ listed.satelliteId = number ∧
            ∃ word, listed.mask.has word = true ∧ word.aiding = kind) ∨
        ∃ mask ∈ request.gnssData, ∃ word, mask.has word = true ∧
          word.aiding = .inl (constellation, kind)
    | .common kind =>
        ∃ mask ∈ request.gnssData, ∃ word, mask.has word = true ∧ word.aiding = .inr kind
    | .cell entry => ∃ mask ∈ request.cellData, mask.has entry = true

/-! ### What is asked for -/

/-- The request deletes the data asked for, apart from polynomials, and sets no bit without a
meaning. -/
structure ServiceDataDeletion.Serves (request : ServiceDataDeletion) (data : AidingData) :
    Prop where
  satellite (constellation : AidingConstellation) (number : UInt16) (kind : AidingSatelliteData) :
    request.Deletes (.satellite constellation number kind) ↔
      data.constellations.has constellation = true ∧ data.satelliteData.has kind = true ∧
        kind ≠ .poly
  common (kind : AidingCommonData) :
    request.Deletes (.common kind) ↔ data.commonData.has kind = true ∧ kind ≠ .cellDatabase
  cell (entry : DeletedCellData) :
    request.Deletes (.cell entry) ↔ data.commonData.has .cellDatabase = true
  satelliteNamed : ∀ part ∈ request.satelliteData, part.system.IsNamed ∧ part.dataMask.IsNamed
  commonNamed : ∀ mask ∈ request.commonData, mask.IsNamed
  cellNamed : ∀ mask ∈ request.cellData, mask.IsNamed

/-- The request deletes the data asked for as far as the older deletion knows it: for GPS only, and
ephemerides and almanacs satellite by satellite. It sets no bit without a meaning. -/
structure AssistDataDeletion.Serves (request : AssistDataDeletion) (data : AidingData) :
    Prop where
  listed : request.info.map (·.satelliteId.toNat) =
    if data.constellations.has .gps && (data.satelliteData.has .ephemeris ||
        data.satelliteData.has .almanac) then List.range' 1 32 else []
  entries : ∀ listed ∈ request.info, listed.system = .gps ∧ listed.mask.IsNamed ∧
    ∀ word, listed.mask.has word = true ↔ data.satelliteData.has word.aiding = true
  gpsOnly : ∀ mask ∈ request.gnssData, mask.intersects (.ofList
    [.glonassDirection, .glonassSteer, .glonassTime, .glonassAlmanacCorr]) = false
  satellite (constellation : AidingConstellation) (number : UInt16) (kind : AidingSatelliteData) :
    request.Deletes (.satellite constellation number kind) ↔
      constellation = .gps ∧ data.constellations.has .gps = true ∧
        data.satelliteData.has kind = true ∧
        (kind ∈ [.ionosphere, .health, .direction, .saData] ∨
          kind ∈ [.ephemeris, .almanac] ∧ 1 ≤ number.toNat ∧ number.toNat ≤ 32)
  common (kind : AidingCommonData) :
    request.Deletes (.common kind) ↔
      data.commonData.has kind = true ∧ kind ∈ [.position, .time, .utc, .rti]
  cell (entry : DeletedCellData) :
    request.Deletes (.cell entry) ↔ data.commonData.has .cellDatabase = true
  gnssNamed : ∀ mask ∈ request.gnssData, mask.IsNamed
  cellNamed : ∀ mask ∈ request.cellData, mask.IsNamed

/-! ### Translated masks -/

namespace Mask

variable {φ ψ Item : Type} [Flag φ] [DecidableEq φ] [Flag ψ] [DecidableEq ψ]

theorem has_eq_false_of_isEmpty {mask : Mask φ} (hempty : mask.isEmpty = true) (flag : φ) :
    mask.has flag = false := by
  rw [(isEmpty_iff mask).mp hempty]
  exact has_empty flag

/-- An empty mask is left out, and nothing is lost with it. -/
theorem exists_nonempty? (mask : Mask φ) (property : φ → Prop) :
    (∃ part ∈ mask.nonempty?, ∃ flag, part.has flag = true ∧ property flag) ↔
      ∃ flag, mask.has flag = true ∧ property flag := by
  unfold nonempty?
  cases hempty : mask.isEmpty with
  | false => simp
  | true => simp [has_eq_false_of_isEmpty hempty]

theorem IsNamed.isEmpty_iff {mask : Mask φ} (hmask : mask.IsNamed) :
    mask.isEmpty = true ↔ ∀ flag, mask.has flag = false := by
  refine ⟨has_eq_false_of_isEmpty, fun hnone => ?_⟩
  refine (Mask.isEmpty_iff mask).mpr (hmask.ext .empty fun flag => ?_)
  rw [hnone flag, has_empty]

omit [DecidableEq φ] in
theorem eq_of_mem_nonempty? {mask part : Mask φ} (hpart : part ∈ mask.nonempty?) : part = mask :=
  (nonempty?_eq_some_iff.mp hpart).2.symm

variable [LawfulFlag φ] [LawfulFlag ψ]

/-- If the words of a table mean what they are listed for, a translation has words for the flags of
the mask that have any, and for no others. -/
theorem exists_translated {table : φ → List ψ} {reading : ψ → Item} {meaning : φ → Item}
    (htable : ∀ flag, ∀ word ∈ table flag, reading word = meaning flag) (mask : Mask φ)
    (item : Item) :
    (∃ word, (mask.translate table).has word = true ∧ reading word = item) ↔
      ∃ flag, mask.has flag = true ∧ table flag ≠ [] ∧ meaning flag = item := by
  constructor
  · rintro ⟨word, hword, rfl⟩
    obtain ⟨flag, hflag, hmem⟩ := (has_translate ..).mp hword
    exact ⟨flag, hflag, List.ne_nil_of_mem hmem, (htable flag word hmem).symm⟩
  · rintro ⟨flag, hflag, hwords, rfl⟩
    obtain ⟨word, hword⟩ := List.exists_mem_of_ne_nil _ hwords
    exact ⟨word, (has_translate ..).mpr ⟨flag, hflag, hword⟩, htable flag word hword⟩

end Mask

/-! ### The tables -/

theorem AidingSatelliteData.aiding_of_mem_service (kind : AidingSatelliteData) :
    ∀ word ∈ kind.service, word.aiding = kind := by
  intro word hword
  cases kind with
  | poly => exact absurd hword List.not_mem_nil
  | _ => cases List.mem_singleton.mp hword; rfl

theorem AidingSatelliteData.service_ne_nil_iff (kind : AidingSatelliteData) :
    kind.service ≠ [] ↔ kind ≠ .poly := by
  cases kind <;> decide

theorem AidingConstellation.service_aiding (constellation : AidingConstellation) :
    constellation.service.aiding = constellation := by
  cases constellation <;> rfl

theorem AidingCommonData.aiding_of_mem_service (kind : AidingCommonData) :
    ∀ word ∈ kind.service, word.aiding = kind := by
  intro word hword
  cases kind with
  | cellDatabase => exact absurd hword List.not_mem_nil
  | _ => cases List.mem_singleton.mp hword; rfl

theorem AidingCommonData.service_ne_nil_iff (kind : AidingCommonData) :
    kind.service ≠ [] ↔ kind ≠ .cellDatabase := by
  cases kind <;> decide

theorem AidingSatelliteData.aiding_of_mem_assist (kind : AidingSatelliteData) :
    ∀ word ∈ kind.assist, word.aiding = .inl (.gps, kind) := by
  intro word hword
  cases kind with
  | ionosphere | health | direction | saData => cases List.mem_singleton.mp hword; rfl
  | _ => exact absurd hword List.not_mem_nil

theorem AidingSatelliteData.assist_ne_nil_iff (kind : AidingSatelliteData) :
    kind.assist ≠ [] ↔ kind ∈ [.ionosphere, .health, .direction, .saData] := by
  cases kind <;> decide

theorem AidingSatelliteData.aiding_of_mem_perSatellite (kind : AidingSatelliteData) :
    ∀ word ∈ kind.perSatellite, word.aiding = kind := by
  intro word hword
  cases kind with
  | ephemeris | almanac => cases List.mem_singleton.mp hword; rfl
  | _ => exact absurd hword List.not_mem_nil

theorem DeletedSvInfo.mem_perSatellite (word : DeletedSvInfo) :
    word ∈ word.aiding.perSatellite := by
  cases word <;> exact List.mem_singleton.mpr rfl

theorem DeletedSvInfo.exists_aiding_iff (kind : AidingSatelliteData) :
    (∃ word : DeletedSvInfo, word.aiding = kind) ↔ kind ∈ [.ephemeris, .almanac] := by
  constructor
  · rintro ⟨word, rfl⟩
    cases word <;> decide
  · intro hkind
    rcases List.mem_pair.mp hkind with rfl | rfl
    · exact ⟨.ephemeris, rfl⟩
    · exact ⟨.almanac, rfl⟩

theorem AidingCommonData.aiding_of_mem_assist (kind : AidingCommonData) :
    ∀ word ∈ kind.assist, word.aiding = .inr kind := by
  intro word hword
  cases kind with
  | frequencyBias | cellDatabase => exact absurd hword List.not_mem_nil
  | _ => cases List.mem_singleton.mp hword; rfl

theorem AidingCommonData.assist_ne_nil_iff (kind : AidingCommonData) :
    kind.assist ≠ [] ↔ kind ∈ [.position, .time, .utc, .rti] := by
  cases kind <;> decide

namespace AidingData

variable {data : AidingData}

theorem isNamed_of_mem_cellDatabase? {mask : Mask DeletedCellData}
    (hmask : mask ∈ data.cellDatabase?) : mask.IsNamed := by
  unfold cellDatabase? at hmask
  split at hmask
  · rw [← Option.some.inj hmask]
    exact Mask.IsNamed.ofList _
  · cases hmask

theorem cellDatabase?_has_iff (data : AidingData) (entry : DeletedCellData) :
    (∃ mask ∈ data.cellDatabase?, mask.has entry = true) ↔
      data.commonData.has .cellDatabase = true := by
  unfold cellDatabase?
  cases data.commonData.has .cellDatabase with
  | false => simp
  | true => simp [Mask.has_full]

/-! ### The deletion of service data -/

theorem constellations_translated (data : AidingData) (constellation : AidingConstellation) :
    (∃ system, (data.constellations.translate fun constellation => [constellation.service]).has
        system = true ∧ system.aiding = constellation) ↔
      data.constellations.has constellation = true := by
  have htable (constellation : AidingConstellation) :
      ∀ system ∈ [constellation.service], system.aiding = id constellation := by
    intro system hsystem
    rw [List.mem_singleton.mp hsystem]
    exact constellation.service_aiding
  rw [Mask.exists_translated htable]
  simp

theorem satelliteData_translated (data : AidingData) (kind : AidingSatelliteData) :
    (∃ word, (data.satelliteData.translate AidingSatelliteData.service).has word = true ∧
        word.aiding = kind) ↔
      data.satelliteData.has kind = true ∧ kind ≠ .poly := by
  rw [Mask.exists_translated AidingSatelliteData.aiding_of_mem_service]
  simp only [AidingSatelliteData.service_ne_nil_iff, ← and_assoc, exists_eq_right]

theorem commonData_translated (data : AidingData) (kind : AidingCommonData) :
    (∃ word, (data.commonData.translate AidingCommonData.service).has word = true ∧
        word.aiding = kind) ↔
      data.commonData.has kind = true ∧ kind ≠ .cellDatabase := by
  rw [Mask.exists_translated AidingCommonData.aiding_of_mem_service]
  simp only [AidingCommonData.service_ne_nil_iff, ← and_assoc, exists_eq_right]

theorem serviceDeletion_serves (hparts : data.deleteAll = false) :
    data.serviceDeletion.Serves data := by
  unfold serviceDeletion
  rw [hparts, if_neg Bool.false_ne_true]
  constructor
  case satellite =>
    intro constellation number kind
    refine (or_iff_right Bool.false_ne_true).trans ?_
    dsimp only
    rw [Option.exists_mem_map]
    dsimp only
    rw [exists_congr fun _ => and_left_comm, exists_and_left, Mask.exists_nonempty?,
      constellations_translated, satelliteData_translated]
  case common =>
    intro kind
    refine (or_iff_right Bool.false_ne_true).trans ?_
    dsimp only
    rw [Mask.exists_nonempty?, commonData_translated]
  case cell =>
    intro entry
    exact (or_iff_right Bool.false_ne_true).trans (data.cellDatabase?_has_iff entry)
  case satelliteNamed =>
    rw [Option.forall_mem_map]
    intro mask hmask
    rw [Mask.eq_of_mem_nonempty? hmask]
    exact ⟨Mask.isNamed_translate _ _, Mask.isNamed_translate _ _⟩
  case commonNamed =>
    intro mask hmask
    rw [Mask.eq_of_mem_nonempty? hmask]
    exact Mask.isNamed_translate _ _
  case cellNamed => exact fun mask => isNamed_of_mem_cellDatabase?

/-! ### The deletion of assistance data -/

theorem assistSatelliteData_translated (data : AidingData) (constellation : AidingConstellation)
    (kind : AidingSatelliteData) :
    (∃ word, (data.satelliteData.translate AidingSatelliteData.assist).has word = true ∧
        word.aiding = .inl (constellation, kind)) ↔
      constellation = .gps ∧ data.satelliteData.has kind = true ∧
        kind ∈ [.ionosphere, .health, .direction, .saData] := by
  rw [Mask.exists_translated AidingSatelliteData.aiding_of_mem_assist]
  constructor
  · rintro ⟨flag, hflag, hknown, hmeaning⟩
    obtain ⟨rfl, rfl⟩ := Prod.mk.inj (Sum.inl.inj hmeaning)
    exact ⟨rfl, hflag, flag.assist_ne_nil_iff.mp hknown⟩
  · rintro ⟨rfl, hkind, hknown⟩
    exact ⟨kind, hkind, kind.assist_ne_nil_iff.mpr hknown, rfl⟩

theorem assistCommonData_translated (data : AidingData) (kind : AidingCommonData) :
    (∃ word, (data.commonData.translate AidingCommonData.assist).has word = true ∧
        word.aiding = .inr kind) ↔
      data.commonData.has kind = true ∧ kind ∈ [.position, .time, .utc, .rti] := by
  rw [Mask.exists_translated AidingCommonData.aiding_of_mem_assist]
  simp only [AidingCommonData.assist_ne_nil_iff, Sum.inr.injEq, ← and_assoc, exists_eq_right]

/-- The older deletion's words for common and GPS data. -/
def assistMask (data : AidingData) : Mask DeletedGnssData :=
  if data.constellations.has .gps then
    data.commonData.translate AidingCommonData.assist ∪
      data.satelliteData.translate AidingSatelliteData.assist
  else data.commonData.translate AidingCommonData.assist

theorem assistMask_has (data : AidingData) (word : DeletedGnssData) :
    data.assistMask.has word = true ↔
      (data.commonData.translate AidingCommonData.assist).has word = true ∨
        data.constellations.has .gps = true ∧
          (data.satelliteData.translate AidingSatelliteData.assist).has word = true := by
  unfold assistMask
  cases data.constellations.has .gps with
  | false => simp
  | true => simp [Mask.has_union]

/-- The satellite data that the older deletion knows as a whole. -/
theorem assistMask_satellite (data : AidingData) (constellation : AidingConstellation)
    (kind : AidingSatelliteData) :
    (∃ word, data.assistMask.has word = true ∧ word.aiding = .inl (constellation, kind)) ↔
      constellation = .gps ∧ data.constellations.has .gps = true ∧
        data.satelliteData.has kind = true ∧
        kind ∈ [.ionosphere, .health, .direction, .saData] := by
  -- Words for common data mean no satellite data, so those of the other table decide.
  have hcommon : ¬∃ word, (data.commonData.translate AidingCommonData.assist).has word = true ∧
      word.aiding = .inl (constellation, kind) := by
    rw [Mask.exists_translated AidingCommonData.aiding_of_mem_assist]
    rintro ⟨_, -, -, hmeaning⟩
    cases hmeaning
  simp only [assistMask_has, or_and_right, exists_or, and_assoc, exists_and_left]
  rw [or_iff_right hcommon, assistSatelliteData_translated, and_left_comm]

theorem assistMask_common (data : AidingData) (kind : AidingCommonData) :
    (∃ word, data.assistMask.has word = true ∧ word.aiding = .inr kind) ↔
      data.commonData.has kind = true ∧ kind ∈ [.position, .time, .utc, .rti] := by
  have hsatellite : ¬∃ word,
      (data.satelliteData.translate AidingSatelliteData.assist).has word = true ∧
        word.aiding = .inr kind := by
    rw [Mask.exists_translated AidingSatelliteData.aiding_of_mem_assist]
    rintro ⟨_, -, -, hmeaning⟩
    cases hmeaning
  simp only [assistMask_has, or_and_right, exists_or, and_assoc, exists_and_left]
  rw [or_iff_left fun hboth => hsatellite hboth.2, assistCommonData_translated]

theorem assistMask_isNamed (data : AidingData) : data.assistMask.IsNamed := by
  unfold assistMask
  split
  · exact (Mask.isNamed_translate _ _).union (Mask.isNamed_translate _ _)
  · exact Mask.isNamed_translate _ _

/-- The words of the older deletion for each single satellite. -/
def satelliteMask (data : AidingData) : Mask DeletedSvInfo :=
  data.satelliteData.translate AidingSatelliteData.perSatellite

theorem satelliteMask_isNamed (data : AidingData) : data.satelliteMask.IsNamed :=
  Mask.isNamed_translate _ _

theorem satelliteMask_has (data : AidingData) (word : DeletedSvInfo) :
    data.satelliteMask.has word = data.satelliteData.has word.aiding := by
  rw [Bool.eq_iff_iff]
  refine (Mask.has_translate ..).trans ⟨?_, fun hword => ⟨_, hword, word.mem_perSatellite⟩⟩
  rintro ⟨kind, hkind, hword⟩
  rwa [kind.aiding_of_mem_perSatellite word hword]

theorem satelliteMask_isEmpty (data : AidingData) :
    data.satelliteMask.isEmpty =
      !(data.satelliteData.has .ephemeris || data.satelliteData.has .almanac) := by
  rw [Bool.eq_iff_iff, data.satelliteMask_isNamed.isEmpty_iff, Bool.not_eq_true',
    Bool.or_eq_false_iff]
  simp only [satelliteMask_has]
  constructor
  · exact fun hnone => ⟨hnone .ephemeris, hnone .almanac⟩
  · rintro ⟨hephemeris, halmanac⟩ word
    cases word with
    | ephemeris => exact hephemeris
    | almanac => exact halmanac

theorem satelliteDeletions_eq (data : AidingData) :
    data.satelliteDeletions =
      if data.satelliteData.has .ephemeris || data.satelliteData.has .almanac then
        gpsSatellites.map fun satelliteId =>
          { satelliteId, system := .gps, mask := data.satelliteMask }
      else [] := by
  unfold satelliteDeletions Mask.nonempty?
  rw [← satelliteMask, satelliteMask_isEmpty]
  cases data.satelliteData.has .ephemeris || data.satelliteData.has .almanac <;> rfl

theorem gpsSatellites_toNat : gpsSatellites.map UInt16.toNat = List.range' 1 32 := by
  decide

theorem satelliteDeletions_listed (data : AidingData) :
    data.satelliteDeletions.map (·.satelliteId.toNat) =
      if data.satelliteData.has .ephemeris || data.satelliteData.has .almanac then
        List.range' 1 32
      else [] := by
  rw [satelliteDeletions_eq]
  split
  · rw [List.map_map, ← gpsSatellites_toNat]
    rfl
  · rfl

theorem eq_of_mem_satelliteDeletions {listed : SatelliteDeletion}
    (hlisted : listed ∈ data.satelliteDeletions) :
    listed.system = .gps ∧ listed.mask = data.satelliteMask := by
  rw [satelliteDeletions_eq] at hlisted
  split at hlisted
  · obtain ⟨satelliteId, -, rfl⟩ := List.mem_map.mp hlisted
    exact ⟨rfl, rfl⟩
  · cases hlisted

/-- What is deleted satellite by satellite. -/
theorem satelliteDeletions_delete (data : AidingData) (constellation : AidingConstellation)
    (number : UInt16) (kind : AidingSatelliteData) :
    (∃ listed ∈ data.satelliteDeletions,
        listed.system.aiding? = some constellation ∧ listed.satelliteId = number ∧
          ∃ word, listed.mask.has word = true ∧ word.aiding = kind) ↔
      constellation = .gps ∧ data.satelliteData.has kind = true ∧
        kind ∈ [.ephemeris, .almanac] ∧ 1 ≤ number.toNat ∧ number.toNat ≤ 32 := by
  have hrange : number.toNat ∈ List.range' 1 32 ↔ 1 ≤ number.toNat ∧ number.toNat ≤ 32 := by
    rw [List.mem_range'_1]
    omega
  rw [← hrange]
  constructor
  · rintro ⟨listed, hlisted, hsystem, rfl, word, hword, rfl⟩
    obtain ⟨hgps, hmask⟩ := eq_of_mem_satelliteDeletions hlisted
    rw [hgps] at hsystem
    rw [hmask, satelliteMask_has] at hword
    have hnumber := List.mem_map_of_mem (f := fun listed => listed.satelliteId.toNat) hlisted
    rw [satelliteDeletions_listed] at hnumber
    refine ⟨(Option.some.inj hsystem).symm, hword,
      (DeletedSvInfo.exists_aiding_iff _).mp ⟨word, rfl⟩, ?_⟩
    split at hnumber
    · exact hnumber
    · cases hnumber
  · rintro ⟨rfl, hkind, hknown, hnumber⟩
    -- One kind that is wanted puts every satellite on the list, with all kinds that are wanted.
    have hwanted :
        (data.satelliteData.has .ephemeris || data.satelliteData.has .almanac) = true := by
      rw [Bool.or_eq_true]
      rcases List.mem_pair.mp hknown with rfl | rfl
      · exact .inl hkind
      · exact .inr hkind
    have hall := data.satelliteDeletions_listed
    rw [if_pos hwanted] at hall
    rw [← hall] at hnumber
    obtain ⟨listed, hlisted, hsame⟩ := List.mem_map.mp hnumber
    obtain ⟨hgps, hmask⟩ := eq_of_mem_satelliteDeletions hlisted
    obtain ⟨word, rfl⟩ := (DeletedSvInfo.exists_aiding_iff kind).mpr hknown
    refine ⟨listed, hlisted, congrArg _ hgps, UInt16.toNat_inj.mp hsame, word, ?_, rfl⟩
    rw [hmask, satelliteMask_has, hkind]

theorem exists_aiding_of_glonass {word : DeletedGnssData} (hword : word ∈
    [DeletedGnssData.glonassDirection, .glonassSteer, .glonassTime, .glonassAlmanacCorr]) :
    ∃ kind, word.aiding = .inl (.glonass, kind) := by
  cases word with
  | glonassDirection | glonassSteer | glonassTime | glonassAlmanacCorr => exact ⟨_, rfl⟩
  | _ => exact absurd hword (by decide)

theorem assistDeletion_eq (hparts : data.deleteAll = false) :
    data.assistDeletion =
      { info := if data.constellations.has .gps then data.satelliteDeletions else []
        gnssData := data.assistMask.nonempty?
        cellData := data.cellDatabase? } := by
  unfold assistDeletion assistMask
  rw [hparts]
  rfl

theorem assistDeletion_serves (hparts : data.deleteAll = false) :
    data.assistDeletion.Serves data := by
  rw [assistDeletion_eq hparts]
  constructor
  case listed =>
    dsimp only
    cases data.constellations.has .gps with
    | false => rfl
    | true => exact data.satelliteDeletions_listed
  case entries =>
    intro listed hlisted
    dsimp only at hlisted
    split at hlisted
    · obtain ⟨hgps, hmask⟩ := eq_of_mem_satelliteDeletions hlisted
      rw [hmask]
      exact ⟨hgps, data.satelliteMask_isNamed, fun word => by rw [satelliteMask_has]⟩
    · cases hlisted
  case gpsOnly =>
    intro mask hmask
    rw [Mask.eq_of_mem_nonempty? hmask, Mask.intersects_ofList_eq_false_iff]
    intro word hword
    rw [Bool.eq_false_iff]
    intro hhas
    obtain ⟨kind, hkind⟩ := exists_aiding_of_glonass hword
    cases ((data.assistMask_satellite .glonass kind).mp ⟨word, hhas, hkind⟩).1
  case satellite =>
    intro constellation number kind
    refine (or_iff_right Bool.false_ne_true).trans ?_
    dsimp only
    rw [Mask.exists_nonempty?, assistMask_satellite]
    cases data.constellations.has .gps with
    | false => simp
    | true =>
        rw [if_pos rfl, satelliteDeletions_delete]
        simp only [true_and, ← and_or_left]
        rw [or_comm]
  case common =>
    intro kind
    refine (or_iff_right Bool.false_ne_true).trans ?_
    dsimp only
    rw [Mask.exists_nonempty?, assistMask_common]
  case cell =>
    intro entry
    exact (or_iff_right Bool.false_ne_true).trans (data.cellDatabase?_has_iff entry)
  case gnssNamed =>
    intro mask hmask
    rw [Mask.eq_of_mem_nonempty? hmask]
    exact data.assistMask_isNamed
  case cellNamed => exact fun mask => isNamed_of_mem_cellDatabase?

theorem deletes_of_serves {service : ServiceDataDeletion} {assist : AssistDataDeletion}
    (hservice : service.Serves data) (hassist : assist.Serves data) {item : AidingItem}
    (hdeletes : assist.Deletes item) : service.Deletes item := by
  cases item with
  | satellite constellation number kind =>
      obtain ⟨rfl, hgps, hkind, hknown⟩ := (hassist.satellite constellation number kind).mp hdeletes
      refine (hservice.satellite _ number kind).mpr ⟨hgps, hkind, ?_⟩
      rintro rfl
      rcases hknown with hwhole | ⟨hsingle, -⟩
      · exact absurd hwhole (by decide)
      · exact absurd hsingle (by decide)
  | common kind =>
      obtain ⟨hkind, hknown⟩ := (hassist.common kind).mp hdeletes
      refine (hservice.common kind).mpr ⟨hkind, ?_⟩
      rintro rfl
      exact absurd hknown (by decide)
  | cell entry => exact (hservice.cell entry).mpr ((hassist.cell entry).mp hdeletes)

/-- Both requests delete all if that is asked for, whatever else is. If it is not, each deletes what
is asked for as far as it can. In either case the older one deletes nothing that the other does
not. -/
theorem assistDeletion_refines (data : AidingData) :
    (data.deleteAll = true →
      data.serviceDeletion = { deleteAll := true } ∧ data.assistDeletion = { deleteAll := true }) ∧
      (data.deleteAll = false →
        data.serviceDeletion.Serves data ∧ data.assistDeletion.Serves data) ∧
      ∀ item, data.assistDeletion.Deletes item → data.serviceDeletion.Deletes item := by
  have hwhole (hall : data.deleteAll = true) :
      data.serviceDeletion = { deleteAll := true } ∧ data.assistDeletion = { deleteAll := true } :=
    ⟨if_pos hall, if_pos hall⟩
  refine ⟨hwhole, fun hparts => ⟨serviceDeletion_serves hparts, assistDeletion_serves hparts⟩, ?_⟩
  intro item hdeletes
  cases hall : data.deleteAll with
  | true =>
      rw [(hwhole hall).1]
      exact .inl rfl
  | false =>
      exact deletes_of_serves (serviceDeletion_serves hall) (assistDeletion_serves hall) hdeletes

end AidingData

end GnssAdapter
