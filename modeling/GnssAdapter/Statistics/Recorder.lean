import GnssAdapter.Event.Mask
import GnssAdapter.Indication.Kind
import GnssAdapter.Message.Answer
import GnssAdapter.Message.Identity

/-!
Metrics of a process: counters that add up, gauges that keep the last value, histograms that keep
every sample. A metric is known by its name and labels.
-/

namespace GnssAdapter

/-- The two kinds of measurement sets. -/
inductive SetKind where
  | raw | processed
  deriving DecidableEq

def SetKind.label : SetKind → String
  | .raw => "raw"
  | .processed => "processed"

/-- One thing worth counting. -/
inductive Observation where
  | indication (kind : IndicationKind)
  | exchange (message : MessageId) (outcome : Outcome) (latencyMs : Float)
  | replayQueued (message : MessageId)
  | replaysDrained (sent failed : Nat)
  | setReported (kind : SetKind) (satellites : Nat)
  | orbitBytes (count : Nat)
  | registration (mask : Mask NativeEvent)

/-- The name of a metric with its labels in braces. -/
def metricName (name : String) (labels : List (String × String)) : String :=
  let labels := labels.map fun (key, value) => key ++ "=" ++ value
  name ++ "\x7b" ++ String.intercalate "," labels ++ "\x7d"

/-- The metrics so far, each kind in the order in which its metrics first came up. -/
structure Recorder where
  counters : List (String × Nat) := []
  gauges : List (String × Nat) := []
  histograms : List (String × List Float) := []

namespace Recorder

/-- Changes the entry of a name, which starts out at a given value. -/
def update {α : Type} (name : String) (start : α) (change : α → α) :
    List (String × α) → List (String × α)
  | [] => [(name, change start)]
  | entry :: rest =>
      if entry.1 = name then (name, change entry.2) :: rest
      else entry :: update name start change rest

def add (recorder : Recorder) (name : String) (amount : Nat) : Recorder :=
  { recorder with counters := update name 0 (· + amount) recorder.counters }

def set (recorder : Recorder) (name : String) (value : Nat) : Recorder :=
  { recorder with gauges := update name 0 (fun _ => value) recorder.gauges }

def sample (recorder : Recorder) (name : String) (value : Float) : Recorder :=
  { recorder with histograms := update name [] (· ++ [value]) recorder.histograms }

/-- The histogram of the latencies of synchronous requests. -/
def latencyName : String := "loc_api_sync_latency_ms"

def observe (recorder : Recorder) : Observation → Recorder
  | .indication kind =>
      recorder.add (metricName "loc_api_indications_total" [("kind", kind.label)]) 1
  | .exchange message outcome latencyMs =>
      let labels := [("message", Enumeration.name message), ("outcome", outcome.label)]
      (recorder.add (metricName "loc_api_sync_requests_total" labels) 1).sample
        latencyName latencyMs
  | .replayQueued message =>
      let labels := [("message", Enumeration.name message)]
      recorder.add (metricName "loc_api_busy_replays_queued_total" labels) 1
  | .replaysDrained sent failed =>
      (recorder.add "loc_api_busy_replays_drained_total" sent).add
        "loc_api_busy_replays_failed_total" failed
  | .setReported kind satellites =>
      let labels := [("kind", kind.label)]
      (recorder.add (metricName "loc_api_measurement_sets_total" labels) 1).sample
        (metricName "loc_api_measurement_set_size" labels) (.ofNat satellites)
  | .orbitBytes count => recorder.add "loc_api_xtra_bytes_injected_total" count
  | .registration mask => recorder.set "loc_api_registered_event_mask" mask.toNat

end Recorder

end GnssAdapter
