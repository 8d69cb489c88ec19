import CoreSteer.Machine
/-!
# The search for an idle core

A search is restricted to a set of cores and to the cores that a task may run on.  It takes the
core with the highest rank; among performance cores of equal rank it prefers one that boosts
higher, and otherwise the first one.  If asked to, it first looks only at cores whose sibling is
idle as well.  A claim that is lost ends a look, and the search goes on to the next look.
-/
namespace CoreSteer

/-- The cores that a search may return. -/
inductive CoreSet where
  /-- The cores of a domain. -/
  | domain (d : Nat)
  /-- The performance cores. -/
  | performance
  /-- The efficiency cores. -/
  | efficiency
deriving DecidableEq, Repr

/-- The cores of a set; nothing for a domain that does not exist. -/
def Topology.coreSet? (t : Topology) : CoreSet → Option CpuMask
  | .domain d => t.domainMask? d
  | .performance => some t.performanceMask
  | .efficiency => some t.efficiencyMask

/-- A core that a search may choose. -/
structure Candidate where
  /-- The core. -/
  cpu : Nat
  /-- Its rank. -/
  rank : Nat
  /-- Whether it boosts higher, where that counts. -/
  turbo : Bool
deriving DecidableEq, Repr

/-- The better of two candidates; the first one if neither is better. -/
def Candidate.better (a b : Candidate) : Candidate :=
  if a.rank < b.rank ∨ (b.rank = a.rank ∧ b.turbo = true ∧ a.turbo = false) then b else a

/-- The best of some candidates; the first one of the best. -/
def Candidate.best? : List Candidate → Option Candidate
  | [] => none
  | c :: cs => some (cs.foldl better c)

namespace Machine

/-- A core as a candidate for a set. -/
def candidate (m : Machine) (set : CoreSet) (cpu : Nat) : Candidate where
  cpu := cpu
  rank := BoostRanking.rank m.hints.boost cpu
  turbo := set == .performance && (m.topology.core? cpu).any (·.preferredBoost)

/-- The best core of a pool. -/
def bestOf? (m : Machine) (set : CoreSet) (pool : CpuMask) : Option Candidate :=
  Candidate.best? (pool.toList.map (m.candidate set))

/-- Count a claim. -/
def countClaim (m : Machine) (set : CoreSet) (rank : Nat) (whole : Bool) : Machine :=
  let m := if whole then m.bump .smtIdlePicks else m
  match set with
  | .domain _ => if 0 < rank then m.bump .prefcorePlacements else m
  | .performance => m.bump .pcorePlacements
  | .efficiency => m.bump .ecoreOffloads

/-- One look: claim the best core of a pool. -/
def look (m : Machine) (set : CoreSet) (pool : CpuMask) (whole : Bool) : Option Nat × Machine :=
  match m.bestOf? set pool with
  | none => (none, m)
  | some c =>
    let (won, host) := m.host.claim c.cpu
    let m := { m with host := host }
    if won then (some c.cpu, m.countClaim set c.rank whole) else (none, m)

/-- Whether cores with an idle sibling are looked at first, if that is asked for. -/
def prefersWhole (m : Machine) : Bool := m.topology.smtEnabled && m.config.preferIdleSmt

/-- Claim an idle core of a set that a task may run on; `whole` asks for a core whose sibling is
idle too, where there is one. -/
def pickIdle (m : Machine) (task : Task) (set : CoreSet) (whole : Bool) : Option Nat × Machine :=
  match m.topology.coreSet? set with
  | none => (none, m)
  | some cores =>
    let allowed := cores ∩ task.allowed
    if whole && m.prefersWhole then
      match m.look set (allowed ∩ m.host.idleWhole) true with
      | (some cpu, m) => (some cpu, m)
      | (none, m) => m.look set (allowed ∩ m.host.idle) false
    else m.look set (allowed ∩ m.host.idle) false

end Machine

end CoreSteer
