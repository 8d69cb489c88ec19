import CoreSteer.Preemption
import CoreSteer.Proofs.Machine.IdleSearch
import Mathlib.Data.List.Induction
/-!
# The core that gives way

A core may give way to a task if what it is known to run is less urgent.  Going through the cores of
a domain in order, the machine keeps one that may give way, and replaces it by each later one that
runs nothing more urgent (`LastOfLeastUrgent`).  What remains is the last of the cores that run the
least urgent work, and nothing remains only where no core may give way.
-/
namespace CoreSteer

lemma Urgency.level_inj {u v : Urgency} (h : u.level = v.level) : u = v := by
  cases u <;> cases v <;> first | rfl | cases h

namespace Machine

variable {m : Machine} {domain cpu : Nat} {waker u : Urgency}

/-! ## Cores that may give way -/

/-- A core of a domain may give way to a task as urgent as `waker`, since it runs something of urgency
`u`. -/
structure MayYield (m : Machine) (domain : Nat) (waker : Urgency) (cpu : Nat) (u : Urgency) :
    Prop where
  /-- The core is of the domain. -/
  inDomain : m.topology.domainOf? cpu = some domain
  /-- It runs a task, and task zero is none. -/
  runs : ∃ c, m.core? cpu = some c ∧ c.run.pid ≠ 0 ∧ c.run.urgency = u
  /-- What it runs is less urgent. -/
  outranked : waker.level < u.level

/-- The core of a domain that gives way is the last one of those that run the least urgent work. -/
def Yields (m : Machine) (domain : Nat) (waker : Urgency) (cpu : Nat) : Prop :=
  ∃ u, m.MayYield domain waker cpu u ∧
    ∀ c v, m.MayYield domain waker c v → v.level < u.level ∨ v = u ∧ c ≤ cpu

lemma urgencyOn?_eq_some_iff :
    m.urgencyOn? cpu = some u ↔
      ∃ c, m.core? cpu = some c ∧ c.run.pid ≠ 0 ∧ c.run.urgency = u := by
  have hcurrent : ∀ r : RunState, r.current?.map (·.2) = some u ↔ r.pid ≠ 0 ∧ r.urgency = u := by
    intro r
    unfold RunState.current?
    split
    · next hzero => exact iff_of_false (by simp) fun h => h.1 hzero
    · next hpid => simp [hpid]
  unfold urgencyOn?
  rcases m.core? cpu with _ | c
  · simp
  · simpa using hcurrent c.run

lemma mayYield_iff : m.MayYield domain waker cpu u ↔
    m.topology.domainOf? cpu = some domain ∧ m.urgencyOn? cpu = some u ∧
      waker.level < u.level := by
  rw [urgencyOn?_eq_some_iff]
  exact ⟨fun h => ⟨h.inDomain, h.runs, h.outranked⟩, fun h => ⟨h.1, h.2.1, h.2.2⟩⟩

/-- Only one core gives way. -/
lemma Yields.unique {cpu' : Nat} (h : m.Yields domain waker cpu)
    (h' : m.Yields domain waker cpu') : cpu = cpu' := by
  obtain ⟨u, hu, hlast⟩ := h
  obtain ⟨u', hu', hlast'⟩ := h'
  rcases hlast cpu' u' hu' with hlt | ⟨rfl, hle⟩
  · rcases hlast' cpu u hu with hlt' | ⟨rfl, -⟩ <;> omega
  · rcases hlast' cpu u' hu with hlt' | ⟨-, hle'⟩ <;> omega

/-! ## Going through the cores -/

/-- Going on with one more core, either it takes the place of the best one so far, which runs nothing
less urgent, or that one remains, and runs something less urgent if this one may give way too. -/
lemma considerVictim_cases (m : Machine) (waker : Urgency) (best : Option (Nat × Urgency))
    (cpu : Nat) :
    (∃ u, m.urgencyOn? cpu = some u ∧ waker.level < u.level ∧
        (∀ c v, best = some (c, v) → v.level ≤ u.level) ∧
        m.considerVictim waker best cpu = some (cpu, u)) ∨
      m.considerVictim waker best cpu = best ∧
        ∀ u, m.urgencyOn? cpu = some u → waker.level < u.level →
          ∃ c v, best = some (c, v) ∧ u.level < v.level := by
  unfold considerVictim
  split
  · next hidle => exact .inr ⟨rfl, fun u hu => by rw [hidle] at hu; cases hu⟩
  · next u hu =>
    split
    · next htake =>
      refine .inl ⟨u, hu, htake.1, fun c v hbest => ?_, rfl⟩
      have hall := htake.2
      rw [hbest] at hall
      exact of_decide_eq_true hall
    · next hkeep =>
      refine .inr ⟨rfl, fun v hv hless => ?_⟩
      obtain rfl : u = v := Option.some.inj (hu.symm.trans hv)
      rcases best with _ | ⟨c, w⟩
      · exact absurd ⟨hless, rfl⟩ hkeep
      · refine ⟨c, w, rfl, Nat.lt_of_not_le fun hle => hkeep ⟨hless, ?_⟩⟩
        exact decide_eq_true hle

/-- What `best` is once the cores of `seen` were gone through. -/
structure LastOfLeastUrgent (m : Machine) (waker : Urgency) (seen : List Nat)
    (best : Option (Nat × Urgency)) : Prop where
  /-- The core was gone through, and runs something less urgent than the waker. -/
  outranked : ∀ c u, best = some (c, u) →
    c ∈ seen ∧ m.urgencyOn? c = some u ∧ waker.level < u.level
  /-- Any other such core runs something more urgent or comes earlier. -/
  last : ∀ d ∈ seen, ∀ v, m.urgencyOn? d = some v → waker.level < v.level →
    ∃ c u, best = some (c, u) ∧ (v.level < u.level ∨ v = u ∧ d ≤ c)

namespace LastOfLeastUrgent

variable {seen : List Nat} {best : Option (Nat × Urgency)}

/-- One more core, which comes after all others. -/
lemma considerVictim (h : m.LastOfLeastUrgent waker seen best) (hseen : ∀ d ∈ seen, d < cpu) :
    m.LastOfLeastUrgent waker (seen ++ [cpu]) (m.considerVictim waker best cpu) := by
  rcases m.considerVictim_cases waker best cpu with ⟨u, hu, hless, hbest, htake⟩ | ⟨hkeep, hbest⟩
  · rw [htake]
    refine ⟨?_, fun d hd v hv hv' => ⟨cpu, u, rfl, ?_⟩⟩
    · rintro _ _ ⟨⟩
      exact ⟨by simp, hu, hless⟩
    · rcases List.mem_append.1 hd with hd | hd
      · obtain ⟨c, w, hw, hlast⟩ := h.last d hd v hv hv'
        have hle := hbest c w hw
        have hlt := hseen d hd
        rcases hlast with hlast | ⟨rfl, -⟩
        · exact .inl (hlast.trans_le hle)
        · rcases hle.lt_or_eq with hlt' | heq
          · exact .inl hlt'
          · exact .inr ⟨Urgency.level_inj heq, hlt.le⟩
      · obtain rfl := List.mem_singleton.1 hd
        exact .inr ⟨Option.some.inj (hv.symm.trans hu), le_rfl⟩
  · rw [hkeep]
    refine ⟨fun c u hc => ?_, fun d hd v hv hv' => ?_⟩
    · obtain ⟨hmem, hc⟩ := h.outranked c u hc
      exact ⟨List.mem_append_left _ hmem, hc⟩
    · rcases List.mem_append.1 hd with hd | hd
      · exact h.last d hd v hv hv'
      · obtain rfl := List.mem_singleton.1 hd
        obtain ⟨c, w, hw, hlt⟩ := hbest v hv hv'
        exact ⟨c, w, hw, .inl hlt⟩

/-- All cores, in order. -/
lemma foldl (m : Machine) (waker : Urgency) {cpus : List Nat} (h : cpus.Pairwise (· < ·)) :
    m.LastOfLeastUrgent waker cpus (cpus.foldl (m.considerVictim waker) none) := by
  induction cpus using List.reverseRecOn with
  | nil =>
    constructor
    · rintro c u ⟨⟩
    · rintro d ⟨⟩
  | append_singleton cpus cpu ih =>
    obtain ⟨hcpus, -, hlt⟩ := List.pairwise_append.1 h
    rw [List.foldl_append]
    exact (ih hcpus).considerVictim fun d hd => hlt d hd cpu (List.mem_singleton.2 rfl)

end LastOfLeastUrgent

/-! ## The choice -/

/-- The choice in a domain is what remains of its cores, if any. -/
lemma lastOfLeastUrgent_victim? (m : Machine) (domain : Nat) (waker : Urgency) :
    ∃ cpus best, (∀ cpu, cpu ∈ cpus ↔ m.topology.domainOf? cpu = some domain) ∧
      m.LastOfLeastUrgent waker cpus best ∧ m.victim? domain waker = best.map (·.1) := by
  rw [victim?, show m.topology.domainMask? domain = m.topology.coreSet? (.domain domain) from rfl]
  rcases hcores : m.topology.coreSet? (.domain domain) with _ | cores
  · -- no core is of a domain that does not exist
    refine ⟨[], none, fun cpu => iff_of_false List.not_mem_nil fun hdomain => ?_,
      LastOfLeastUrgent.foldl m waker .nil, rfl⟩
    obtain ⟨core, hcore, rfl⟩ := Option.map_eq_some_iff.1 hdomain
    have hno := Topology.not_has_of_coreSet?_eq_none hcores hcore
    exact absurd hno (by simp [CoreSet.has])
  · refine ⟨cores.toList, _, fun cpu => ?_,
      LastOfLeastUrgent.foldl m waker cores.pairwise_toList, rfl⟩
    rw [CpuMask.mem_toList, Topology.mem_coreSet? hcores, Topology.domainOf?,
      Option.map_eq_some_iff]
    simp [CoreSet.has]

/-- Nothing is chosen if and only if no core may give way. -/
lemma victim?_eq_none_iff :
    m.victim? domain waker = none ↔ ∀ cpu u, ¬m.MayYield domain waker cpu u := by
  obtain ⟨cpus, best, hcpus, hbest, hvictim⟩ := m.lastOfLeastUrgent_victim? domain waker
  rw [hvictim, Option.map_eq_none_iff]
  constructor
  · rintro rfl cpu u hyield
    obtain ⟨hdomain, hu, hless⟩ := mayYield_iff.1 hyield
    obtain ⟨c, v, hnone, -⟩ := hbest.last cpu ((hcpus cpu).2 hdomain) u hu hless
    cases hnone
  · intro hnone
    refine Option.eq_none_iff_forall_ne_some.2 ?_
    rintro ⟨cpu, u⟩ rfl
    obtain ⟨hmem, hu, hless⟩ := hbest.outranked cpu u rfl
    exact hnone cpu u (mayYield_iff.2 ⟨(hcpus cpu).1 hmem, hu, hless⟩)

/-- The core that is chosen is the one that gives way. -/
theorem victim?_eq_some_iff :
    m.victim? domain waker = some cpu ↔ m.Yields domain waker cpu := by
  have hyields : ∀ cpu, m.victim? domain waker = some cpu → m.Yields domain waker cpu := by
    intro cpu h
    obtain ⟨cpus, best, hcpus, hbest, hvictim⟩ := m.lastOfLeastUrgent_victim? domain waker
    obtain ⟨⟨_, u⟩, rfl, rfl⟩ := Option.map_eq_some_iff.1 (hvictim.symm.trans h)
    obtain ⟨hmem, hu, hless⟩ := hbest.outranked _ u rfl
    refine ⟨u, mayYield_iff.2 ⟨(hcpus _).1 hmem, hu, hless⟩, fun c v hc => ?_⟩
    obtain ⟨hdomain, hv, hless'⟩ := mayYield_iff.1 hc
    obtain ⟨_, _, ⟨⟩, hlast⟩ := hbest.last c ((hcpus c).2 hdomain) v hv hless'
    exact hlast
  refine ⟨hyields cpu, fun h => ?_⟩
  rcases hvictim : m.victim? domain waker with _ | c
  · obtain ⟨u, hu, -⟩ := h
    exact absurd hu (victim?_eq_none_iff.1 hvictim cpu u)
  · rw [h.unique (hyields c hvictim)]

end Machine

end CoreSteer
