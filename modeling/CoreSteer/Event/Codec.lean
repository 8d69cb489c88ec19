import CoreSteer.Event.Basic
import CoreSteer.Json.Basic
/-!
# Scheduling events in JSON
-/
namespace CoreSteer.SchedEvent

/-- The fields of an event. -/
def jsonFields (e : SchedEvent) : List (String × Json) := [
  ("timestamp_ns", .nat e.timestamp),
  ("kind", .str e.kind.jsonName),
  ("pid", .nat e.pid),
  ("cpu", .nat e.cpu),
  ("domain", .nat e.domain),
  ("peer_domain", .nat e.peerDomain),
  ("value1", .nat e.value1),
  ("value2", .nat e.value2),
  ("comm", .str e.taskName.text)]

/-- An event with all its fields. -/
def toJson (e : SchedEvent) : Json := .obj e.jsonFields

end CoreSteer.SchedEvent
