import CoreSteer.Text.Layout
/-!
# What the metrics mean

A line for each field of the metrics, in the order of the fields' names: the name, the kind of
value, and a description.
-/
namespace CoreSteer.Metrics

/-- What kind of value a field has. -/
inductive FieldKind where
  /-- A whole number. -/
  | count
  /-- A floating-point number. -/
  | real
  /-- Text. -/
  | text
deriving DecidableEq, Repr

/-- The name of a kind of value. -/
def FieldKind.name : FieldKind → String
  | count => "u64"
  | real => "float"
  | text => "string"

/-- What a field is. -/
structure FieldDoc where
  /-- Its name. -/
  name : String
  /-- Its kind of value. -/
  kind : FieldKind
  /-- Its description. -/
  description : String

/-- The fields in the order of their names. -/
def fieldDocs : List FieldDoc := [
  ⟨"cgroup_hits", .count, "Cgroup hint hits in interval"⟩,
  ⟨"compaction", .count, "Tasks steered out of the low-latency domain in interval"⟩,
  ⟨"containers", .count, "Container hint hits in interval"⟩,
  ⟨"direct", .count, "Direct placements at wake-up in interval"⟩,
  ⟨"dispatched", .count, "Tasks dispatched from queues in interval"⟩,
  ⟨"domain_cross", .count, "Placements in another domain in interval"⟩,
  ⟨"domain_local", .count, "Placements in the previous domain in interval"⟩,
  ⟨"domains", .text, "Per-domain running/gaming counts (live)"⟩,
  ⟨"ecore", .count, "E-core offloads in interval"⟩,
  ⟨"enqueued", .count, "Tasks enqueued in interval"⟩,
  ⟨"events_dropped", .count, "Events dropped since start"⟩,
  ⟨"freq_domain", .count, "High-frequency domain placements in interval"⟩,
  ⟨"gaming", .count, "Gaming enqueues in interval"⟩,
  ⟨"gaming_jitter_us", .real, "Gaming latency standard deviation (us)"⟩,
  ⟨"gaming_latency_avg_us", .count, "Average gaming latency (us)"⟩,
  ⟨"gaming_latency_count", .count, "Gaming latency samples (total)"⟩,
  ⟨"gaming_latency_sum_ns", .count, "Gaming latency sum (ns, total)"⟩,
  ⟨"gaming_latency_sum_sq_us", .count, "Gaming latency sum of squares (us^2, total)"⟩,
  ⟨"gaming_preempted", .count, "Gaming tasks descheduled while runnable in interval"⟩,
  ⟨"gpu_feeders", .count, "GPU submission threads seen in interval"⟩,
  ⟨"hint_detects", .count, "Gaming detections from process hints in interval"⟩,
  ⟨"imbalance", .count, "Domain imbalance reports in interval"⟩,
  ⟨"interactive", .count, "Interactive enqueues in interval"⟩,
  ⟨"late_frames", .count, "Gaming wake-ups over 1ms in interval"⟩,
  ⟨"latency_avg_us", .count, "Average wake-to-run latency (us)"⟩,
  ⟨"latency_count", .count, "Latency samples (total)"⟩,
  ⟨"latency_max_us", .count, "Largest wake-to-run latency since start (us)"⟩,
  ⟨"latency_min_us", .count, "Smallest wake-to-run latency since start (us)"⟩,
  ⟨"latency_sum_ns", .count, "Latency sum (ns, total)"⟩,
  ⟨"ll_migrations", .count, "Moves into the low-latency domain in interval"⟩,
  ⟨"parent_chain", .count, "Gaming detections from ancestors in interval"⟩,
  ⟨"pcore", .count, "P-core placements in interval"⟩,
  ⟨"preempt_kicks", .count, "Preemption kicks in interval"⟩,
  ⟨"prefcore", .count, "Boost-ranked core picks in interval"⟩,
  ⟨"proton", .count, "Proton/Wine classifications in interval"⟩,
  ⟨"queued", .count, "Queued tasks (live)"⟩,
  ⟨"smt_idle", .count, "Fully idle physical core picks in interval"⟩,
  ⟨"tasks", .count, "Tracked tasks (live)"⟩,
  ⟨"vm_vcpus", .count, "VM vCPU hint hits in interval"⟩]

/-- A field in one line, with its name and its kind of value in columns. -/
def FieldDoc.render (f : FieldDoc) : String :=
  let kind := "(" ++ f.kind.name ++ ")"
  "  " ++ Text.flushLeft 24 f.name ++ " " ++ Text.flushLeft 8 kind ++ " : " ++ f.description

/-- A title, and a line for each field. -/
def glossary : String :=
  "[Metrics]\n" ++ String.join (fieldDocs.map fun f => f.render ++ "\n")

end CoreSteer.Metrics
