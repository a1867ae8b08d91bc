import GnssAdapter.Statistics.Running
import Mathlib.Algebra.BigOperators.Group.List.Basic
import Mathlib.Algebra.Order.BigOperators.Group.List
import Mathlib.Algebra.Order.Field.Rat
import Mathlib.Order.Bounds.Basic
import Mathlib.Tactic.FieldSimp
import Mathlib.Tactic.Positivity
import Mathlib.Tactic.Ring

/-!
Running statistics over exact numbers.

After any numbers, the statistics are those worked out from all of them at once (`Summarises`). A new
number moves the mean, and with it the distance of every earlier number. Seen from another center,
squared distances grow by the squared shift, once for each number (`spread_eq_add`), and the new mean
lies where the earlier numbers and the new one balance (`sub_mean_concat`). So the growth and the
distance of the new number together are the one product that a step adds (`spread_mean_concat`).
-/

namespace GnssAdapter

/-- Exact arithmetic. -/
instance : Statistic ℚ where
  ofCount count := count
  smaller := min
  larger := max

namespace Sample

/-- The arithmetic mean. -/
def mean (values : List ℚ) : ℚ :=
  values.sum / values.length

/-- The squared distances from a center, added up. -/
def spread (values : List ℚ) (center : ℚ) : ℚ :=
  (values.map fun value => (value - center) ^ 2).sum

variable (values : List ℚ) (value center : ℚ)

theorem mean_mul_length : mean values * values.length = values.sum := by
  unfold mean
  cases values with
  | nil => simp
  | cons value rest => exact div_mul_cancel₀ _ (Nat.cast_ne_zero.mpr (Nat.succ_ne_zero rest.length))

theorem mean_concat :
    mean (values ++ [value]) =
      mean values + (value - mean values) / ((values.length + 1 : Nat) : ℚ) := by
  have hlength : ((values.length + 1 : Nat) : ℚ) ≠ 0 := Nat.cast_ne_zero.mpr (Nat.succ_ne_zero _)
  have hsum : (values ++ [value]).sum = mean values * values.length + value := by
    rw [List.sum_append, List.sum_singleton, mean_mul_length]
  rw [mean, hsum, List.length_append, List.length_singleton]
  field_simp
  push_cast
  ring

/-- The new number is as far above the new mean as the earlier ones are below it, all together. -/
theorem sub_mean_concat :
    value - mean (values ++ [value]) =
      values.length * (mean (values ++ [value]) - mean values) := by
  have hlength : (values.length : ℚ) + 1 ≠ 0 := by positivity
  rw [mean_concat]
  push_cast
  field_simp
  ring

theorem spread_concat :
    spread (values ++ [value]) center = spread values center + (value - center) ^ 2 := by
  unfold spread
  rw [List.map_append, List.sum_append, List.map_singleton, List.sum_singleton]

theorem spread_nonneg : 0 ≤ spread values center := by
  refine List.sum_nonneg fun square hsquare => ?_
  obtain ⟨value, -, rfl⟩ := List.mem_map.mp hsquare
  exact sq_nonneg _

theorem spread_eq_moments :
    spread values center =
      (values.map (· ^ 2)).sum - 2 * center * values.sum + values.length * center ^ 2 := by
  unfold spread
  induction values with
  | nil => simp
  | cons value rest ih =>
      simp only [List.map_cons, List.sum_cons, List.length_cons, ih]
      push_cast
      ring

/-- From any center, squared distances exceed those from the mean by the squared shift, once for each
number. -/
theorem spread_eq_add :
    spread values center =
      spread values (mean values) + values.length * (mean values - center) ^ 2 := by
  rw [spread_eq_moments, spread_eq_moments, ← mean_mul_length values]
  ring

/-- One number more adds the product of its distances from the old mean and from the new one. -/
theorem spread_mean_concat :
    spread (values ++ [value]) (mean (values ++ [value])) =
      spread values (mean values) +
        (value - mean values) * (value - mean (values ++ [value])) := by
  have hbalance := sub_mean_concat values value
  generalize mean (values ++ [value]) = moved at hbalance ⊢
  calc spread (values ++ [value]) moved
      = spread values moved + (value - moved) ^ 2 := spread_concat ..
    _ = spread values (mean values) + values.length * (mean values - moved) ^ 2 +
          (value - moved) ^ 2 := by rw [spread_eq_add]
    _ = spread values (mean values) + values.length * (moved - mean values) *
          (moved - mean values) + (value - moved) ^ 2 := by ring
    _ = spread values (mean values) + (value - moved) * (moved - mean values) +
          (value - moved) ^ 2 := by rw [← hbalance]
    _ = spread values (mean values) + (value - mean values) * (value - moved) := by ring

end Sample

namespace RunningStats

/-! ### One number at a time -/

theorem push_first (stats : RunningStats ℚ) (value : ℚ) (hcount : stats.count = 0) :
    stats.push value = ⟨1, value, 0, value, value⟩ := by
  unfold push
  rw [if_pos hcount]
  rfl

theorem push_next (stats : RunningStats ℚ) (value : ℚ) (hcount : stats.count ≠ 0) :
    stats.push value =
      let mean := stats.runningMean + (value - stats.runningMean) / ((stats.count + 1 : Nat) : ℚ)
      { count := stats.count + 1
        runningMean := mean
        deviation := stats.deviation + (value - stats.runningMean) * (value - mean)
        least := min stats.least value
        greatest := max stats.greatest value } := by
  unfold push
  rw [if_neg hcount]
  rfl

/-- The statistics are those of the values, worked out from all of them at once. -/
structure Summarises (stats : RunningStats ℚ) (values : List ℚ) : Prop where
  hcount : stats.count = values.length
  hmean : stats.runningMean = Sample.mean values
  hdeviation : stats.deviation = Sample.spread values (Sample.mean values)
  hleast : IsLeast {value | value ∈ values} stats.least
  hgreatest : IsGreatest {value | value ∈ values} stats.greatest

theorem push_empty_summarises (value : ℚ) : (empty.push value).Summarises [value] := by
  rw [push_first _ _ rfl]
  constructor
  case hcount => rfl
  case hmean => simp [Sample.mean]
  case hdeviation => simp [Sample.mean, Sample.spread]
  case hleast => simp
  case hgreatest => simp

namespace Summarises

variable {stats : RunningStats ℚ} {values : List ℚ}

theorem count_ne_zero (hstats : stats.Summarises values) : stats.count ≠ 0 := by
  rw [hstats.hcount]
  exact (List.length_pos_of_mem hstats.hleast.1).ne'

theorem push (hstats : stats.Summarises values) (value : ℚ) :
    (stats.push value).Summarises (values ++ [value]) := by
  have hmembers : {other | other ∈ values ++ [value]} = insert value {other | other ∈ values} := by
    ext other
    rw [Set.mem_insert_iff, Set.mem_ofPred_eq, Set.mem_ofPred_eq, List.mem_append,
      List.mem_singleton, or_comm]
  have hmean : stats.runningMean + (value - stats.runningMean) / ((stats.count + 1 : Nat) : ℚ) =
      Sample.mean (values ++ [value]) := by
    rw [Sample.mean_concat, hstats.hmean, hstats.hcount]
  rw [push_next _ _ hstats.count_ne_zero]
  dsimp only
  rw [hmean]
  constructor
  case hcount => rw [List.length_append, List.length_singleton, hstats.hcount]
  case hmean => rfl
  case hdeviation => rw [Sample.spread_mean_concat, hstats.hdeviation, hstats.hmean]
  case hleast =>
    rw [hmembers, min_comm]
    exact hstats.hleast.insert value
  case hgreatest =>
    rw [hmembers, max_comm]
    exact hstats.hgreatest.insert value

theorem pushAll (hstats : stats.Summarises values) (more : List ℚ) :
    (stats.pushAll more).Summarises (values ++ more) := by
  induction more generalizing stats values with
  | nil => rwa [List.append_nil]
  | cons value rest ih =>
      rw [List.append_cons]
      exact ih (hstats.push value)

theorem of_perm (hstats : stats.Summarises values) {other : List ℚ} (hperm : values.Perm other) :
    stats.Summarises other := by
  have hmean : Sample.mean values = Sample.mean other := by
    rw [Sample.mean, Sample.mean, hperm.sum_eq, hperm.length_eq]
  have hspread : Sample.spread values = Sample.spread other := by
    funext center
    exact (hperm.map _).sum_eq
  have hmembers : {value | value ∈ values} = {value | value ∈ other} := by
    ext value
    exact hperm.mem_iff
  constructor
  case hcount => rw [hstats.hcount, hperm.length_eq]
  case hmean => rw [hstats.hmean, hmean]
  case hdeviation => rw [hstats.hdeviation, hmean, hspread]
  case hleast => exact hmembers ▸ hstats.hleast
  case hgreatest => exact hmembers ▸ hstats.hgreatest

/-- Values leave no choice: there is one summary of them. -/
theorem unique {other : RunningStats ℚ} (hstats : stats.Summarises values)
    (hother : other.Summarises values) : stats = other := by
  have hleast := hstats.hleast.unique hother.hleast
  have hgreatest := hstats.hgreatest.unique hother.hgreatest
  cases stats
  cases other
  congr 1
  · exact hstats.hcount.trans hother.hcount.symm
  · exact hstats.hmean.trans hother.hmean.symm
  · exact hstats.hdeviation.trans hother.hdeviation.symm

theorem mean_eq (hstats : stats.Summarises values) : stats.mean = Sample.mean values := by
  unfold mean
  rw [if_neg hstats.count_ne_zero, hstats.hmean]

theorem variance_of_one (hstats : stats.Summarises values) (hone : values.length = 1) :
    stats.variance = 0 := by
  unfold variance
  rw [if_pos (by rw [hstats.hcount, hone]; decide)]
  rfl

theorem variance_of_more (hstats : stats.Summarises values) (hmore : 2 ≤ values.length) :
    stats.variance =
      Sample.spread values (Sample.mean values) / ((values.length : ℚ) - 1) := by
  unfold variance
  rw [if_neg (by rw [hstats.hcount]; omega), hstats.hdeviation, hstats.hcount]
  change _ / ((values.length - 1 : Nat) : ℚ) = _
  rw [Nat.cast_pred (by omega)]

theorem variance_nonneg (hstats : stats.Summarises values) : 0 ≤ stats.variance := by
  unfold variance
  split
  · exact le_rfl
  · rw [hstats.hdeviation]
    exact div_nonneg (Sample.spread_nonneg ..) (Nat.cast_nonneg _)

end Summarises

/-! ### All numbers at once -/

theorem pushAll_summarises {values : List ℚ} (hvalues : values ≠ []) :
    (empty.pushAll values).Summarises values := by
  cases values with
  | nil => exact absurd rfl hvalues
  | cons value rest => exact (push_empty_summarises value).pushAll rest

/-- Over exact numbers, statistics updated one number at a time are those of the definitions: the
length, the mean, the sample variance (zero of a single number), the least and the greatest number.
So the variance is never negative, and the order of the numbers plays no part. -/
theorem pushAll_eq_batch {values : List ℚ} (hvalues : values ≠ []) :
    (empty.pushAll values).count = values.length ∧
      (empty.pushAll values).mean = values.sum / values.length ∧
      (2 ≤ values.length →
        (empty.pushAll values).variance =
          (values.map fun value => (value - values.sum / values.length) ^ 2).sum /
            ((values.length : ℚ) - 1)) ∧
      (values.length = 1 → (empty.pushAll values).variance = 0) ∧
      IsLeast {value | value ∈ values} (empty.pushAll values).least ∧
      IsGreatest {value | value ∈ values} (empty.pushAll values).greatest ∧
      0 ≤ (empty.pushAll values).variance ∧
      ∀ other : List ℚ, other.Perm values → empty.pushAll other = empty.pushAll values := by
  have hstats := pushAll_summarises hvalues
  refine ⟨hstats.hcount, hstats.mean_eq, hstats.variance_of_more, hstats.variance_of_one,
    hstats.hleast, hstats.hgreatest, hstats.variance_nonneg, ?reordered⟩
  intro other hperm
  have hother : other ≠ [] := by
    rintro rfl
    exact hvalues hperm.nil_eq.symm
  exact ((pushAll_summarises hother).of_perm hperm).unique hstats

theorem pushAll_eq_batch_five :
    ([1, 2, 3, 4, 5] : List ℚ) ≠ [] ∧
      (empty.pushAll ([1, 2, 3, 4, 5] : List ℚ)).mean = 3 ∧
      (empty.pushAll ([1, 2, 3, 4, 5] : List ℚ)).variance = 5 / 2 ∧
      empty.pushAll ([4, 1, 5, 2, 3] : List ℚ) = empty.pushAll [1, 2, 3, 4, 5] := by
  have hvalues : ([1, 2, 3, 4, 5] : List ℚ) ≠ [] := List.cons_ne_nil _ _
  obtain ⟨-, hmean, hvariance, -, -, -, -, hreordered⟩ := pushAll_eq_batch hvalues
  have hsum : ([1, 2, 3, 4, 5] : List ℚ).sum = 15 := by norm_num
  rw [hsum] at hmean hvariance
  refine ⟨hvalues, hmean.trans (by norm_num), (hvariance (by decide)).trans (by norm_num), ?_⟩
  exact hreordered _ (by decide)

end RunningStats

end GnssAdapter
