import CoreSteer.Engine.Basic
import CoreSteer.Text.Layout
/-!
# The state of the engine in words
-/
namespace CoreSteer

/-- The name of the program in its output. -/
def programName : String := "scx_latcache"

/-- The version of the program. -/
def programVersion : String := "1.0.2"

namespace Engine

/-- The line on how long tasks waited, if any did. -/
def latencyLines (c : Counters) : List String :=
  let count := c.get .latencyCount
  if 0 < count then
    let average := c.get .latencySumNs / count / 1000
    let longest := c.get .latencyMaxNs / 1000
    [s!"  latency: avg={average}us, max={longest}us"]
  else []

/-- The line on what runs in a domain. -/
def loadLine (lowLatency : Nat) (d : Nat) (l : DomainLoad) : String :=
  let tasks := l.tasks
  let gaming := l.gaming
  let mark := if d = lowLatency then " [low-latency]" else ""
  s!"  D{d}: {tasks} tasks ({gaming} gaming){mark}"

/-- The counters that are not zero, four in a line. -/
def counterLines (c : Counters) : List String :=
  let shown := (c.entries.filter fun e => decide (0 < e.2)).map fun (name, value) =>
    s!"{name}={value}"
  (Text.rows 3 shown).map fun row => "  counters: " ++ ", ".intercalate row

/-- A line that shows some counters by short names. -/
def countsLine (c : Counters) (shown : List (String × Counter)) : String :=
  "  " ++ ", ".intercalate (shown.map fun e => e.1 ++ ": " ++ toString (c.get e.2))

/-- The state of the engine, for people to read. -/
def dump (e : Engine) : String :=
  let c := e.counters
  let dropped := e.events.dropped
  let lines :=
    [programName ++ " v" ++ programVersion ++ " scheduler dump",
      countsLine c [("enqueued", .enqueued), ("dispatched", .dispatched),
        ("direct", .directDispatched)],
      countsLine c [("gaming", .gamingEnqueued), ("interactive", .interactiveEnqueued),
        ("proton", .protonTasks)],
      countsLine c [("low_latency_migrations", .lowLatencyMigrations),
        ("preempt_kicks", .preemptKicks)],
      countsLine c [("domain_local", .domainLocal), ("domain_cross", .domainCross)]] ++
    latencyLines c ++
    e.loads.toList.zipIdx.map (fun (l, d) => loadLine e.topology.lowLatencyDomain d l) ++
    counterLines c ++
    [s!"  events dropped: {dropped}"]
  String.join (lines.map (· ++ "\n"))

end Engine

end CoreSteer
