import CoreSteer.CpuMask.Ranges
import CoreSteer.StartError
/-!
# The cores of a machine

A `Blueprint` lists the cores of a machine and says which domain has the low-latency cache and
which one, if any, boosts highest.  `Blueprint.fault?` finds what is wrong with it; a `Topology`
is a blueprint without fault.  The masks that idle searches use are read off the list of cores.
-/
namespace CoreSteer

/-- One more than the largest domain number. -/
def maxDomains : Nat := 8

/-- What is known about a core. -/
structure CoreDesc where
  /-- The group of cores that share a cache or a kind. -/
  domain : Nat
  /-- The group within the domain. -/
  subdomain : Nat
  /-- The memory node. -/
  node : Nat
  /-- The other hardware thread of the same physical core. -/
  sibling : Option Nat
  /-- Whether the core has the low-latency cache. -/
  lowLatencyCache : Bool
  /-- Whether this is a performance core. -/
  performance : Bool
  /-- Whether the core boosts higher than its neighbours. -/
  preferredBoost : Bool
deriving DecidableEq, Repr

/-- How the cores of a machine differ. -/
inductive PlatformKind where
  /-- Equal cores in several cache domains. -/
  | cacheDomains
  /-- Performance cores and efficiency cores. -/
  | hybrid
deriving DecidableEq, Repr

/-- The name of a kind in reports. -/
def PlatformKind.name : PlatformKind → String
  | .cacheDomains => "CacheDomains"
  | .hybrid => "Hybrid"

/-- A description of a machine that has not been checked. -/
structure Blueprint where
  /-- How the cores differ. -/
  kind : PlatformKind
  /-- The cores, by number. -/
  cores : Array CoreDesc := #[]
  /-- The domain with the low-latency cache. -/
  lowLatencyDomain : Nat := 0
  /-- The domain that boosts highest, if they differ. -/
  freqDomain : Option Nat := none
  /-- Whether hardware threads of one core are told apart, if that is prescribed. -/
  smt : Option Bool := none
deriving DecidableEq, Repr

namespace Blueprint

/-- Whether a core belongs to domain `d`. -/
def uses (b : Blueprint) (d : Nat) : Bool := b.cores.any fun c => c.domain == d

/-- What is wrong with one core: its domain comes before its sibling. -/
def coreFault? (b : Blueprint) (cpu : Nat) (core : CoreDesc) : Option StartError :=
  if maxDomains ≤ core.domain then some (.domainOutOfRange cpu core.domain)
  else
    match core.sibling with
    | none => none
    | some s => if b.cores.size ≤ s ∨ s = cpu then some (.noSuchSibling cpu s) else none

/-- The first thing that is wrong: the number of cores, then the cores in order, then the
low-latency domain, then the high-frequency domain. -/
def fault? (b : Blueprint) : Option StartError :=
  if b.cores.size = 0 then some .noCores
  else if maxCpus < b.cores.size then some (.tooManyCores b.cores.size)
  else
    match b.cores.toList.zipIdx.findSome? fun (core, cpu) => b.coreFault? cpu core with
    | some e => some e
    | none =>
      if !b.uses b.lowLatencyDomain then some (.emptyLowLatencyDomain b.lowLatencyDomain)
      else
        match b.freqDomain with
        | none => none
        | some d => if !b.uses d then some (.emptyFrequencyDomain d) else none

end Blueprint

/-- The cores of a machine, checked. -/
structure Topology extends Blueprint where
  /-- Nothing is wrong. -/
  faultless : toBlueprint.fault? = none

/-- The topology of a blueprint, or what is wrong with it. -/
def Blueprint.build (b : Blueprint) : Except StartError Topology :=
  match h : b.fault? with
  | some e => .error e
  | none => .ok ⟨b, h⟩

namespace Topology

/-- The number of cores. -/
def nrCpus (t : Topology) : Nat := t.cores.size

/-- One more than the largest domain that a core belongs to. -/
def nrDomains (t : Topology) : Nat := t.cores.foldl (fun n c => max n (c.domain + 1)) 0

/-- What is known about a core, if it exists. -/
def core? (t : Topology) (cpu : Nat) : Option CoreDesc := t.cores[cpu]?

/-- The domain of a core, if it exists. -/
def domainOf? (t : Topology) (cpu : Nat) : Option Nat := (t.core? cpu).map (·.domain)

/-- Whether the platform has performance and efficiency cores. -/
def isHybrid (t : Topology) : Bool := t.kind == .hybrid

/-- Whether hardware threads of one core are told apart: by default when some core has a
sibling. -/
def smtEnabled (t : Topology) : Bool := t.smt.getD (t.cores.any fun c => c.sibling.isSome)

/-- The cores with a property. -/
def cpusWhere (t : Topology) (p : CoreDesc → Bool) : CpuMask :=
  CpuMask.ofList ((List.range t.nrCpus).filter fun cpu => (t.core? cpu).any p)

/-- The cores of a domain; nothing for a domain above all that are used. -/
def domainMask? (t : Topology) (d : Nat) : Option CpuMask :=
  if d < t.nrDomains then some (t.cpusWhere fun c => c.domain == d) else none

/-- The performance cores. -/
def performanceMask (t : Topology) : CpuMask := t.cpusWhere (·.performance)

/-- The efficiency cores. -/
def efficiencyMask (t : Topology) : CpuMask := t.cpusWhere fun c => !c.performance

/-- All cores. -/
def allCpus (t : Topology) : CpuMask := CpuMask.firstN t.nrCpus

/-- A summary line, and a line for each domain. -/
def render (t : Topology) : String :=
  let count := t.nrCpus
  let domains := t.nrDomains
  let kind := t.kind.name
  let lowLatency := t.lowLatencyDomain
  let smt := if t.smtEnabled then "on" else "off"
  let freq := match t.freqDomain with
    | none => ""
    | some d => s!", freq domain {d}"
  let lines := (List.range t.nrDomains).map fun d =>
    let mask := (t.cpusWhere fun c => c.domain == d).render
    s!"\n  D{d}: {mask}"
  s!"{count} cpus, {domains} domains ({kind}), low-latency domain {lowLatency}, smt {smt}{freq}"
    ++ String.join lines

theorem core?_eq_none_iff {t : Topology} {cpu : Nat} : t.core? cpu = none ↔ t.nrCpus ≤ cpu := by
  simp [core?, nrCpus]

theorem domainOf?_eq_none_iff {t : Topology} {cpu : Nat} :
    t.domainOf? cpu = none ↔ t.nrCpus ≤ cpu := by
  simp [domainOf?, core?_eq_none_iff]

theorem mem_cpusWhere {t : Topology} {p : CoreDesc → Bool} {cpu : Nat} :
    cpu ∈ t.cpusWhere p ↔ cpu < maxCpus ∧ ∃ c, t.core? cpu = some c ∧ p c = true := by
  simp only [cpusWhere, CpuMask.mem_ofList, List.mem_filter, List.mem_range,
    Option.any_eq_true_iff_get, and_congr_right_iff]
  intro _
  constructor
  · rintro ⟨_, h, hp⟩
    exact ⟨_, (Option.some_get h).symm, hp⟩
  · rintro ⟨c, hc, hp⟩
    have hs : (t.core? cpu).isSome := by simp [hc]
    refine ⟨Nat.lt_of_not_le fun hle => ?_, hs, ?_⟩
    · simp [core?_eq_none_iff.2 hle] at hc
    · simpa [hc] using hp

end Topology

theorem Blueprint.build_eq_error_iff {b : Blueprint} {e : StartError} :
    b.build = .error e ↔ b.fault? = some e := by
  unfold Blueprint.build
  split <;> simp_all

theorem Blueprint.build_eq_ok_iff {b : Blueprint} {t : Topology} :
    b.build = .ok t ↔ t.toBlueprint = b := by
  constructor
  · intro h
    unfold Blueprint.build at h
    split at h
    · cases h
    · cases h
      rfl
  · rintro rfl
    unfold Blueprint.build
    split
    · next e h => exact absurd (t.faultless.symm.trans h) (by simp)
    · rfl

end CoreSteer
