import CoreSteer.Decimal.Bits
import CoreSteer.Json.Record
import CoreSteer.Metrics.Basic
/-!
# Metrics in JSON

Metrics as a record of whole numbers, one text, and one floating-point number, which is spelt by its
bits.
-/
namespace CoreSteer.Metrics

/-- The fields of metrics. -/
def fieldNames : List String :=
  (Enumerated.all Flow).map Flow.name ++
    ["latency_avg_us", "latency_max_us", "latency_min_us", "gaming_latency_avg_us",
      "gaming_jitter_us", "events_dropped", "tasks", "queued", "domains", "latency_sum_ns",
      "latency_count", "gaming_latency_sum_ns", "gaming_latency_count",
      "gaming_latency_sum_sq_us"]

/-- Metrics with all their fields. -/
def toJson (m : Metrics) : Json :=
  .obj ((Enumerated.all Flow).map (fun f => (f.name, .nat (m.flows.get f))) ++
    [("latency_avg_us", .nat m.latencyAvg),
      ("latency_max_us", .nat m.latencyMax),
      ("latency_min_us", .nat m.latencyMin),
      ("gaming_latency_avg_us", .nat m.gamingLatencyAvg),
      ("gaming_jitter_us", .str (Decimal.bitsText m.gamingJitter)),
      ("events_dropped", .nat m.eventsDropped),
      ("tasks", .nat m.tasks),
      ("queued", .nat m.queued),
      ("domains", .str m.domains),
      ("latency_sum_ns", .nat m.totals.sum),
      ("latency_count", .nat m.totals.count),
      ("gaming_latency_sum_ns", .nat m.totals.gamingSum),
      ("gaming_latency_count", .nat m.totals.gamingCount),
      ("gaming_latency_sum_sq_us", .nat m.totals.gamingSumSq)])

/-- The flows of a record; one that is not there is zero. -/
def flowsOfRecord? (r : Json.Record) : Option (Ledger Flow) :=
  (Enumerated.all Flow).foldlM (fun l f =>
    (r.read? f.name Json.word64? (some 0)).map (l.set f)) .zero

/-- Metrics as a record; a field that is not there is zero or empty. -/
def ofJson? (j : Json) : Option Metrics := do
  let r ← j.record? fieldNames
  let word (name : String) : Option Nat := r.read? name Json.word64? (some 0)
  return {
    flows := ← flowsOfRecord? r
    latencyAvg := ← word "latency_avg_us"
    latencyMax := ← word "latency_max_us"
    latencyMin := ← word "latency_min_us"
    gamingLatencyAvg := ← word "gaming_latency_avg_us"
    gamingJitter := ← r.read? "gaming_jitter_us" (fun j => j.text?.bind Decimal.ofBitsText?)
      (some 0)
    eventsDropped := ← word "events_dropped"
    tasks := ← word "tasks"
    queued := ← word "queued"
    domains := ← r.read? "domains" Json.text? (some "")
    totals := {
      sum := ← word "latency_sum_ns"
      count := ← word "latency_count"
      gamingSum := ← word "gaming_latency_sum_ns"
      gamingCount := ← word "gaming_latency_count"
      gamingSumSq := ← word "gaming_latency_sum_sq_us" } }

end CoreSteer.Metrics
