/-!
Arithmetic on 64-bit words that is lost once a step leaves the words.

A step is worked out on whole numbers and kept only if it is a word again. So a result is there
exactly if every step on the way fits, and then it is the exact one (`step_yields_iff`).
-/

namespace GnssAdapter

/-- The result of a computation on words, `none` if one of its steps does not fit a word. -/
structure CheckedWord where
  word? : Option UInt64

namespace CheckedWord

/-- The word for a whole number. -/
def ofInt (exact : Int) : CheckedWord :=
  ⟨if 0 ≤ exact ∧ exact < UInt64.size then some (UInt64.ofNat exact.toNat) else none⟩

/-- The word for a number that a computation starts from. -/
def of (value : Nat) : CheckedWord :=
  ofInt value

/-- A step, given by what it does to whole numbers. -/
def step (operation : Int → Int → Int) (left right : CheckedWord) : CheckedWord :=
  match left.word?, right.word? with
  | some left, some right => ofInt (operation left.toNat right.toNat)
  | _, _ => ⟨none⟩

instance : Add CheckedWord := ⟨step (· + ·)⟩
instance : Sub CheckedWord := ⟨step (· - ·)⟩
instance : Mul CheckedWord := ⟨step (· * ·)⟩

/-- The result is there, and it is the word for a whole number. -/
def Yields (result : CheckedWord) (exact : Int) : Prop :=
  ∃ word, result.word? = some word ∧ (word.toNat : Int) = exact

/-- The word of a computation that fits throughout. -/
def get (result : CheckedWord) (hresult : ∃ exact, result.Yields exact) : UInt64 :=
  result.word?.get (by
    obtain ⟨_, _, hword, _⟩ := hresult
    rw [hword]
    rfl)

theorem ofInt_yields_iff (value exact : Int) :
    (ofInt value).Yields exact ↔ value = exact ∧ 0 ≤ exact ∧ exact < UInt64.size := by
  unfold ofInt Yields
  by_cases hfits : 0 ≤ value ∧ value < UInt64.size
  · have hword : ((UInt64.ofNat value.toNat).toNat : Int) = value := by
      rw [UInt64.toNat_ofNat_of_lt' (by omega)]
      omega
    rw [if_pos hfits]
    constructor
    · rintro ⟨word, hsome, hexact⟩
      cases hsome
      omega
    · rintro ⟨rfl, -, -⟩
      exact ⟨_, rfl, hword⟩
  · rw [if_neg hfits]
    constructor
    · rintro ⟨word, hsome, -⟩
      cases hsome
    · rintro ⟨rfl, hfits'⟩
      exact absurd hfits' hfits

theorem of_yields {value : Nat} (hvalue : value < UInt64.size) : (of value).Yields value :=
  (ofInt_yields_iff ..).mpr ⟨rfl, by omega, by omega⟩

/-- A step has a result exactly if both sides have one and the exact result fits. -/
theorem step_yields_iff (operation : Int → Int → Int) (left right : CheckedWord) (exact : Int) :
    (step operation left right).Yields exact ↔
      ∃ first second, left.Yields first ∧ right.Yields second ∧
        operation first second = exact ∧ 0 ≤ exact ∧ exact < UInt64.size := by
  constructor
  · intro hyields
    unfold step at hyields
    split at hyields
    case h_1 first second hleft hright =>
      exact ⟨first.toNat, second.toNat, ⟨first, hleft, rfl⟩, ⟨second, hright, rfl⟩,
        (ofInt_yields_iff ..).mp hyields⟩
    case h_2 =>
      obtain ⟨word, hsome, -⟩ := hyields
      cases hsome
  · rintro ⟨_, _, ⟨first, hleft, rfl⟩, ⟨second, hright, rfl⟩, hexact⟩
    unfold step
    rw [hleft, hright]
    exact (ofInt_yields_iff ..).mpr hexact

theorem word?_get (result : CheckedWord) (hresult : ∃ exact, result.Yields exact) :
    result.word? = some (result.get hresult) :=
  (Option.some_get _).symm

namespace Yields

variable {result left right : CheckedWord} {exact first second : Int}

theorem nonneg (hresult : result.Yields exact) : 0 ≤ exact := by
  obtain ⟨word, -, rfl⟩ := hresult
  exact Int.natCast_nonneg _

theorem add (hleft : left.Yields first) (hright : right.Yields second)
    (hfits : first + second < UInt64.size) : (left + right).Yields (first + second) :=
  (step_yields_iff ..).mpr ⟨first, second, hleft, hright, rfl,
    Int.add_nonneg hleft.nonneg hright.nonneg, hfits⟩

theorem sub (hleft : left.Yields first) (hright : right.Yields second)
    (hcovers : second ≤ first) (hfits : first < UInt64.size) :
    (left - right).Yields (first - second) :=
  (step_yields_iff ..).mpr ⟨first, second, hleft, hright, rfl, Int.sub_nonneg_of_le hcovers, by
    have := hright.nonneg
    omega⟩

theorem mul (hleft : left.Yields first) (hright : right.Yields second)
    (hfits : first * second < UInt64.size) : (left * right).Yields (first * second) :=
  (step_yields_iff ..).mpr ⟨first, second, hleft, hright, rfl,
    Int.mul_nonneg hleft.nonneg hright.nonneg, hfits⟩

theorem toNat_get (hresult : result.Yields exact) :
    ((result.get ⟨exact, hresult⟩).toNat : Int) = exact := by
  have hget := result.word?_get ⟨exact, hresult⟩
  obtain ⟨word, hword, hexact⟩ := hresult
  rwa [Option.some.inj (hget.symm.trans hword)]

end Yields

end CheckedWord

end GnssAdapter
