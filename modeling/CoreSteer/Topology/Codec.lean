import CoreSteer.Topology.Basic
import CoreSteer.Json.Record
/-!
# Cores and machines in JSON
-/
namespace CoreSteer

namespace CoreDesc

/-- The fields of a core. -/
def fieldNames : List String :=
  ["domain", "subdomain", "node", "smt_sibling", "low_latency_cache", "performance",
    "preferred_boost"]

/-- A core as a record; in an object it may have no sibling, all else has to be there. -/
def ofJson? (j : Json) : Option CoreDesc := do
  let r ← j.record? fieldNames
  return {
    domain := ← r.read? "domain" Json.word64? none
    subdomain := ← r.read? "subdomain" Json.word64? none
    node := ← r.read? "node" Json.word64? none
    sibling := ← r.readOptional? "smt_sibling" Json.word64?
    lowLatencyCache := ← r.read? "low_latency_cache" Json.bool? none
    performance := ← r.read? "performance" Json.bool? none
    preferredBoost := ← r.read? "preferred_boost" Json.bool? none }

/-- A core with all its fields. -/
def toJson (c : CoreDesc) : Json :=
  .obj [("domain", .nat c.domain), ("subdomain", .nat c.subdomain), ("node", .nat c.node),
    ("smt_sibling", .ofOption .nat c.sibling), ("low_latency_cache", .bool c.lowLatencyCache),
    ("performance", .bool c.performance), ("preferred_boost", .bool c.preferredBoost)]

end CoreDesc

namespace PlatformKind

/-- The kinds by their names in JSON. -/
def jsonNames : List (String × PlatformKind) :=
  [("cache_domains", cacheDomains), ("hybrid", hybrid)]

/-- A kind by its name. -/
def ofJson? (j : Json) : Option PlatformKind := j.choice? jsonNames

/-- The name of a kind in JSON. -/
def jsonName : PlatformKind → String
  | cacheDomains => "cache_domains"
  | hybrid => "hybrid"

end PlatformKind

namespace CoreDesc

/-- A core as its fields in order. -/
def toRow (c : CoreDesc) : Json :=
  .array [.nat c.domain, .nat c.subdomain, .nat c.node, .ofOption .nat c.sibling,
    .bool c.lowLatencyCache, .bool c.performance, .bool c.preferredBoost]

end CoreDesc

namespace Topology

/-- A set of cores as its range list; `null` for the cores of a domain that does not exist. -/
def maskToJson : Option CpuMask → Json := .ofOption fun m => .str m.render

/-- The cores of a machine, and what follows from them. -/
def toJson (t : Topology) : Json :=
  .obj [
    ("cores", .array (t.cores.toList.map CoreDesc.toRow)),
    ("nr_cpus", .nat t.nrCpus),
    ("nr_domains", .nat t.nrDomains),
    ("low_latency_domain", .nat t.lowLatencyDomain),
    ("freq_domain", .ofOption .nat t.freqDomain),
    ("kind", .str t.kind.jsonName),
    ("is_hybrid", .bool t.isHybrid),
    ("smt_enabled", .bool t.smtEnabled),
    ("domain_masks",
      .array ((List.range (t.nrDomains + 1)).map fun d => maskToJson (t.domainMask? d))),
    ("pcores", maskToJson t.performanceMask),
    ("ecores", maskToJson t.efficiencyMask),
    ("all", maskToJson t.allCpus),
    ("domain_of_end", .ofOption .nat (t.domainOf? t.nrCpus)),
    ("display", .str t.render)]

end Topology

end CoreSteer
