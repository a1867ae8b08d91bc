import GnssAdapter.Number.Binary
import GnssAdapter.Number.Decimal

/-!
Running statistics: count, mean, variance and extremes of a sequence of numbers, updated one number
at a time. The arithmetic is a parameter, so that the same updates can be read over exact numbers.
-/

namespace GnssAdapter

/-- The arithmetic of running statistics. -/
class Statistic (α : Type) extends Add α, Sub α, Mul α, Div α where
  ofCount : Nat → α
  smaller : α → α → α
  larger : α → α → α

instance : Statistic Float where
  ofCount := Float.ofNat
  smaller := Number.smaller
  larger := Number.larger

/-- Statistics of the numbers so far. -/
structure RunningStats (α : Type) where
  count : Nat
  runningMean : α
  /-- The sum of the squared deviations from the mean. -/
  deviation : α
  least : α
  greatest : α

namespace RunningStats

variable {α : Type} [Statistic α]

def empty : RunningStats α :=
  let zero := Statistic.ofCount 0
  ⟨0, zero, zero, zero, zero⟩

/-- Adds a number; the first one is taken as it is. -/
def push (stats : RunningStats α) (value : α) : RunningStats α :=
  if stats.count = 0 then ⟨1, value, Statistic.ofCount 0, value, value⟩
  else
    let count := stats.count + 1
    let mean := stats.runningMean + (value - stats.runningMean) / Statistic.ofCount count
    { count
      runningMean := mean
      deviation := stats.deviation + (value - stats.runningMean) * (value - mean)
      least := Statistic.smaller stats.least value
      greatest := Statistic.larger stats.greatest value }

def pushAll (stats : RunningStats α) (values : List α) : RunningStats α :=
  values.foldl push stats

/-- The mean; zero of no numbers. -/
def mean (stats : RunningStats α) : α :=
  if stats.count = 0 then Statistic.ofCount 0 else stats.runningMean

/-- The sample variance; zero of fewer than two numbers. -/
def variance (stats : RunningStats α) : α :=
  if stats.count < 2 then Statistic.ofCount 0
  else stats.deviation / Statistic.ofCount (stats.count - 1)

def standardDeviation (stats : RunningStats Float) : Float :=
  stats.variance.sqrt

/-- The statistics in one line, with three places. -/
def summary (stats : RunningStats Float) : String :=
  if stats.count = 0 then "N/A"
  else
    let least := Number.fixed 3 stats.least
    let greatest := Number.fixed 3 stats.greatest
    let mean := Number.fixed 3 stats.mean
    let deviation := Number.fixed 3 stats.standardDeviation
    let count := toString stats.count
    "min=" ++ least ++ ", max=" ++ greatest ++ ", mean=" ++ mean ++ ", std=" ++ deviation ++
      " (n=" ++ count ++ ")"

end RunningStats

end GnssAdapter
