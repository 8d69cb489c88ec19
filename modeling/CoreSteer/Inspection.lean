import CoreSteer.Classification
import CoreSteer.Event.Codec
/-!
# The state of the policy in JSON

What is remembered of tasks and known about cores, for tools that look at a running policy.
-/
namespace CoreSteer

/-- What is remembered of a task. -/
def TaskState.toJson (s : TaskState) : Json :=
  .obj [
    ("burst_ns", .nat s.burst),
    ("last_run_at", .nat s.lastRunAt),
    ("enqueue_at", .nat s.enqueuedAt),
    ("classified_at", .nat s.classifiedAt),
    ("preferred_domain", .ofOption .nat s.preferredDomain),
    ("last_domain", .ofOption .nat s.lastDomain),
    ("workload", .str s.workload.name),
    ("flags", .array (s.flags.names.map .str))]

/-- What kind of work a task does. -/
def Classification.toJson (c : Classification) : Json :=
  .obj [
    ("is_gaming", .bool c.gaming),
    ("is_proton", .bool c.proton),
    ("is_gpu_feeder", .bool c.gpuFeeder),
    ("workload", .str c.workload.name)]

/-- The running task and its urgency, or `null`. -/
def RunState.toJson (r : RunState) : Json :=
  .ofOption (fun c => .array [.nat c.1, .str c.2.name]) r.current?

/-- What is known about a core. -/
def CoreState.toJson (c : CoreState) : Json :=
  .obj [
    ("run", c.run.toJson),
    ("started_at", .nat c.run.startedAt),
    ("enqueued", .nat c.stats.enqueued),
    ("dispatched", .nat c.stats.dispatched),
    ("gaming_tasks", .nat c.stats.gamingTasks),
    ("latency_sum_ns", .nat c.stats.latencySum),
    ("latency_count", .nat c.stats.latencyCount),
    ("latency_max_ns", .nat c.stats.latencyMax),
    ("idle_ns", .nat c.stats.idle),
    ("busy_ns", .nat c.stats.busy),
    ("perf_cur", .nat c.perf.current),
    ("perf_avg", .nat c.perf.average),
    ("last_update_ns", .nat c.perf.lastUpdate),
    ("last_idle_at", .nat c.perf.lastIdleAt)]

/-- What runs in a domain: all tasks, and those that are gaming. -/
def DomainLoad.toJson (l : DomainLoad) : Json := .array [.nat l.tasks, .nat l.gaming]

/-- An event with all its fields and as a sentence. -/
def SchedEvent.toJsonWithText (e : SchedEvent) : Json :=
  .obj (e.jsonFields ++ [("text", .str e.render)])

end CoreSteer
