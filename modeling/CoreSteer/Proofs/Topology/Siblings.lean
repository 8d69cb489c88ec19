import CoreSteer.Topology.Preset
import CoreSteer.Proofs.Topology.Validation
import CoreSteer.Proofs.Machine.IdleSearch
/-!
# The siblings of common parts

Nothing that is asked of a blueprint says that the sibling of a core has that core as its sibling.  In
the shapes of common parts it is so: their cores are `CoreDesc.Paired`.  Second threads are half of all
numbers away in parts made of complexes, and side by side with the first in hybrid parts; in both layouts
the sibling's sibling is the core itself, and all else is the same (`Preset.ccdCore_twin`,
`Preset.performanceCore_twin`).

The siblings that a platform knows never change, so that on a platform with such cores two siblings are
always idle as a whole core together (`Host.whole_iff_of_sibling?_eq`).
-/
namespace CoreSteer

/-- Siblings are different cores that name each other and are alike in all else. -/
def CoreDesc.Paired (cores : Array CoreDesc) : Prop :=
  ∀ (cpu : Nat) core s, cores[cpu]? = some core → core.sibling = some s →
    s ≠ cpu ∧ cores[s]? = some { core with sibling := some cpu }

namespace Preset

variable {p : Preset} {core : CoreDesc} {cpu s phys perCcd ccds n e : Nat} {smt boost cache : Bool}

/-! ## The two layouts -/

lemma getElem?_ccdCores_eq_some_iff :
    (ccdCores ccds perCcd smt boost cache)[cpu]? = some core ↔
      cpu < ccds * perCcd * threadsPerCore smt ∧
        ccdCore (ccds * perCcd) perCcd smt boost cache cpu = core := by
  simp [ccdCores, Array.getElem?_range]

/-- Half the numbers away is the same core of the same complex. -/
lemma ccdCore_twin (hcpu : cpu < phys * 2)
    (hs : (if cpu < phys then cpu + phys else cpu - phys) = s) :
    s ≠ cpu ∧ s < phys * 2 ∧ ccdCore phys perCcd true boost cache s =
      { ccdCore phys perCcd true boost cache cpu with sibling := some cpu } := by
  by_cases h : cpu < phys
  · rw [if_pos h] at hs
    subst hs
    have hmod : (cpu + phys) % phys = cpu % phys := Nat.add_mod_right cpu phys
    refine ⟨by omega, by omega, ?_⟩
    simp [ccdCore, hmod]
  · rw [if_neg h] at hs
    subst hs
    have hmod : (cpu - phys) % phys = cpu % phys := (Nat.mod_eq_sub_mod (Nat.le_of_not_lt h)).symm
    have hlt : cpu - phys < phys := by omega
    refine ⟨by omega, by omega, ?_⟩
    simp only [ccdCore, hmod, hlt, if_true]
    rw [Nat.sub_add_cancel (Nat.le_of_not_lt h)]

lemma paired_ccdCores : CoreDesc.Paired (ccdCores ccds perCcd smt boost cache) := by
  intro cpu core s hcore hs
  obtain ⟨hcpu, rfl⟩ := getElem?_ccdCores_eq_some_iff.1 hcore
  cases smt with
  | false => simp [ccdCore] at hs
  | true =>
    obtain ⟨hne, hlt, htwin⟩ := ccdCore_twin hcpu (Option.some.inj hs)
    exact ⟨hne, getElem?_ccdCores_eq_some_iff.2 ⟨hlt, htwin⟩⟩

lemma performanceCore_twin (hcpu : cpu < n * 2) (hs : (if cpu % 2 = 0 then cpu + 1 else cpu - 1) = s) :
    s ≠ cpu ∧ s < n * 2 ∧ performanceCore s = { performanceCore cpu with sibling := some cpu } := by
  have hhalf : s / 2 = cpu / 2 := by split at hs <;> omega
  have hback : (if s % 2 = 0 then s + 1 else s - 1) = cpu := by split at hs <;> split <;> omega
  refine ⟨by split at hs <;> omega, by split at hs <;> omega, ?_⟩
  rw [performanceCore, performanceCore, hhalf, hback]

lemma getElem?_hybridCores_eq_some_iff :
    (hybrid n e).blueprint.cores[cpu]? = some core ↔
      (cpu < n * 2 ∧ performanceCore cpu = core) ∨
        (n * 2 ≤ cpu ∧ cpu < n * 2 + e ∧ efficiencyCore (cpu - n * 2) = core) := by
  rw [blueprint, Array.getElem?_append]
  split
  · next h =>
    rw [Array.size_map, Array.size_range] at h
    simp [h, Nat.not_le.2 h]
  · next h =>
    rw [Array.size_map, Array.size_range] at h
    have he : cpu - n * 2 < e ↔ cpu < n * 2 + e := by omega
    simp [h, Nat.le_of_not_lt h, Array.getElem?_range, he]

lemma paired_hybridCores : CoreDesc.Paired (hybrid n e).blueprint.cores := by
  intro cpu core s hcore hs
  rcases getElem?_hybridCores_eq_some_iff.1 hcore with ⟨hcpu, rfl⟩ | ⟨-, -, rfl⟩
  · obtain ⟨hne, hlt, htwin⟩ := performanceCore_twin hcpu (Option.some.inj hs)
    exact ⟨hne, getElem?_hybridCores_eq_some_iff.2 (.inl ⟨hlt, htwin⟩)⟩
  · -- an efficiency core has no sibling
    cases hs

lemma paired_blueprint (p : Preset) : CoreDesc.Paired p.blueprint.cores := by
  cases p with
  | dualCcd n smt boost => exact paired_ccdCores
  | singleCcd n smt => exact paired_ccdCores
  | hybrid n e => exact paired_hybridCores
  | uniform n smt => exact paired_ccdCores

/-! ## Which parts can be built -/

lemma domain_ccdCore_lt (hcpu : cpu < ccds * perCcd * threadsPerCore smt) :
    (ccdCore (ccds * perCcd) perCcd smt boost cache cpu).domain < ccds := by
  have hpos : 0 < ccds * perCcd := Nat.pos_of_mul_pos_right (Nat.zero_lt_of_lt hcpu)
  exact Nat.div_lt_of_lt_mul (Nat.mul_comm ccds perCcd ▸ Nat.mod_lt cpu hpos)

/-- No part has more than two domains. -/
lemma domain_lt_two (h : p.blueprint.cores[cpu]? = some core) : core.domain < 2 := by
  cases p with
  | dualCcd n smt boost =>
    obtain ⟨hcpu, rfl⟩ := getElem?_ccdCores_eq_some_iff.1 h
    exact domain_ccdCore_lt hcpu
  | singleCcd n smt | uniform n smt =>
    obtain ⟨hcpu, rfl⟩ := getElem?_ccdCores_eq_some_iff.1 h
    exact (domain_ccdCore_lt hcpu).trans (by decide)
  | hybrid n e =>
    rcases getElem?_hybridCores_eq_some_iff.1 h with ⟨-, rfl⟩ | ⟨-, -, rfl⟩
    · exact Nat.zero_lt_two
    · exact Nat.one_lt_two

/-- Core zero is in the low-latency domain, unless all cores are efficiency cores. -/
lemma exists_core_zero (hpos : 1 ≤ p.nrCpus) (hp : ∀ n e, p = .hybrid n e → 1 ≤ n) :
    ∃ core, p.blueprint.cores[0]? = some core ∧ core.domain = p.blueprint.lowLatencyDomain := by
  cases p with
  | dualCcd n smt boost =>
    exact ⟨_, getElem?_ccdCores_eq_some_iff.2 ⟨hpos, rfl⟩, by simp [ccdCore, blueprint]⟩
  | singleCcd n smt | uniform n smt =>
    refine ⟨_, getElem?_ccdCores_eq_some_iff.2 ⟨?_, rfl⟩, by simp [ccdCore, blueprint]⟩
    rw [Nat.one_mul]
    exact hpos
  | hybrid n e =>
    have hn := hp n e rfl
    exact ⟨_, getElem?_hybridCores_eq_some_iff.2 (.inl ⟨by omega, rfl⟩), rfl⟩

/-- The first core of the second complex boosts higher, if there are complexes that differ. -/
lemma exists_core_of_freqDomain (hpos : 1 ≤ p.nrCpus) {d : Nat}
    (hd : p.blueprint.freqDomain = some d) :
    ∃ (cpu : Nat) (core : CoreDesc), p.blueprint.cores[cpu]? = some core ∧ core.domain = d := by
  cases p with
  | dualCcd n smt boost =>
    cases boost with
    | false => cases hd
    | true =>
      obtain rfl := Option.some.inj hd
      have hn : 0 < n := by
        rw [nrCpus] at hpos
        exact Nat.pos_of_mul_pos_left (Nat.pos_of_mul_pos_right hpos)
      have hthreads : 1 ≤ threadsPerCore smt := by cases smt <;> decide
      refine ⟨n, _, getElem?_ccdCores_eq_some_iff.2 ⟨?_, rfl⟩, ?_⟩
      · calc n < 2 * n := by omega
          _ ≤ 2 * n * threadsPerCore smt := Nat.le_mul_of_pos_right _ hthreads
      · show n % (2 * n) / n = 1
        rw [Nat.mod_eq_of_lt (by omega), Nat.div_self hn]
  | singleCcd | uniform | hybrid => cases hd

lemma pos_of_coherent (h : (Preset.hybrid n e).blueprint.Coherent) : 1 ≤ n := by
  obtain ⟨cpu, core, hcore, hdomain⟩ := h.lowLatency
  rcases getElem?_hybridCores_eq_some_iff.1 hcore with ⟨hcpu, -⟩ | ⟨-, -, rfl⟩
  · omega
  · cases hdomain

lemma coherent_blueprint_iff :
    p.blueprint.Coherent ↔
      1 ≤ p.nrCpus ∧ p.nrCpus ≤ 256 ∧ ∀ pcores ecores, p = .hybrid pcores ecores → 1 ≤ pcores := by
  constructor
  · intro h
    refine ⟨size_cores_blueprint p ▸ h.size_pos, size_cores_blueprint p ▸ h.size_le, ?_⟩
    rintro n e rfl
    exact pos_of_coherent h
  · rintro ⟨hpos, hle, hp⟩
    obtain ⟨core, hcore, hdomain⟩ := exists_core_zero hpos hp
    refine ⟨size_cores_blueprint p ▸ hpos, size_cores_blueprint p ▸ hle, fun cpu core hcore => ?_,
      fun cpu core s hcore hs => ?_, ⟨0, core, hcore, hdomain⟩,
      fun d hd => exists_core_of_freqDomain hpos hd⟩
    · exact (domain_lt_two hcore).trans (by decide)
    · obtain ⟨hne, htwin⟩ := p.paired_blueprint cpu core s hcore hs
      obtain ⟨hlt, -⟩ := Array.getElem?_eq_some_iff.1 htwin
      exact ⟨hlt, hne⟩

lemma blueprint_of_build {t : Topology} (h : p.build = .ok t) : t.toBlueprint = p.blueprint :=
  Blueprint.build_eq_ok_iff.1 (build_eq_build_blueprint p ▸ h)

end Preset

/-! ## Siblings on a platform -/

/-- What may happen to a platform. -/
inductive HostCall where
  /-- The clock is set. -/
  | setNow (now : Nat)
  /-- A core goes idle, or is idle no more. -/
  | setIdle (cpu : Nat) (idle : Bool)
  /-- The speed of a core changes. -/
  | setPerf (cpu level : Nat)
  /-- The policy claims a core. -/
  | claim (cpu : Nat)
  /-- The platform chooses a core. -/
  | choose (task : Task) (prev : Nat)
  /-- A task is put on a core. -/
  | place (pid cpu slice : Nat)
  /-- A core is kicked. -/
  | kick (cpu : Nat) (flags : KickFlags)
  /-- Somebody takes the placements. -/
  | takePlacements
  /-- Somebody takes the kicks. -/
  | takeKicks
  /-- A process starts. -/
  | addProcess (pid parent : Nat) (name : String)
  /-- A process ends. -/
  | removeProcess (pid : Nat)
  /-- The next claims of a core are going to be lost. -/
  | lose (cpu claims : Nat)

namespace Host

variable {t : Topology} {h : Host} {core : CoreDesc} {cpu s : Nat}

/-- The platform after something happened to it. -/
def after (h : Host) : HostCall → Host
  | .setNow now => { h with now := now }
  | .setIdle cpu idle => h.setIdle cpu idle
  | .setPerf cpu level => h.setPerf cpu level
  | .claim cpu => (h.claim cpu).2
  | .choose task prev => (h.choose task prev).2
  | .place pid cpu slice => h.place pid cpu slice
  | .kick cpu flags => h.kick cpu flags
  | .takePlacements => h.takePlacements.2
  | .takeKicks => h.takeKicks.2
  | .addProcess pid parent name => h.addProcess pid parent name
  | .removeProcess pid => h.removeProcess pid
  | .lose cpu claims => { h with lost := h.lost.insert cpu claims }

/-- The platform after calls in order. -/
def afterAll (h : Host) (cs : List HostCall) : Host := cs.foldl after h

lemma siblings_take (h : Host) (cpu : Nat) : (h.take cpu).2.siblings = h.siblings := by
  rw [take]
  split <;> rfl

lemma siblings_after (h : Host) (c : HostCall) : (h.after c).siblings = h.siblings := by
  cases c with
  | claim cpu =>
    rw [after, Host.claim]
    split
    · rfl
    · exact h.siblings_take cpu
  | choose task prev =>
    rw [after, Host.choose]
    split
    · rfl
    · split <;> rfl
  | setNow | setIdle | setPerf | place | kick | takePlacements | takeKicks | addProcess | removeProcess
  | lose => rfl

/-- The siblings of cores never change. -/
lemma siblings_afterAll (h : Host) (cs : List HostCall) : (h.afterAll cs).siblings = h.siblings := by
  induction cs generalizing h with
  | nil => rfl
  | cons c cs ih => exact (ih (h.after c)).trans (h.siblings_after c)

lemma sibling?_afterAll (cs : List HostCall) (hcore : t.core? cpu = some core) :
    ((ofTopology t).afterAll cs).sibling? cpu = core.sibling := by
  rw [sibling?, siblings_afterAll]
  exact (sibling?_ofTopology t cpu).trans (by rw [hcore, Option.bind_some])

/-- Cores that name each other are whole together. -/
lemma whole_iff_of_sibling?_eq (hs : h.sibling? cpu = some s) (hcpu : h.sibling? s = some cpu) :
    h.Whole cpu ↔ h.Whole s := by
  simp only [Whole, hs, hcpu, Option.some.injEq, forall_eq']
  exact And.comm

end Host

namespace Preset

/-- A part can be built exactly when it has between 1 and 256 hardware threads and, if it has efficiency
cores, a performance core as well.  In what is built siblings are different cores that name each other
and share their domain, their kind and their cache, so that of two siblings both are idle as a whole core
or neither is, whatever happens to the platform. -/
theorem build_iff_and_siblings_coherent (p : Preset) :
    ((∃ t, p.build = .ok t) ↔
      1 ≤ p.nrCpus ∧ p.nrCpus ≤ 256 ∧ ∀ pcores ecores, p = .hybrid pcores ecores → 1 ≤ pcores) ∧
    ∀ t, p.build = .ok t →
      t.nrCpus = p.nrCpus ∧
      ∀ cpu core s, t.core? cpu = some core → core.sibling = some s →
        s ≠ cpu ∧
        (∃ twin, t.core? s = some twin ∧ twin.sibling = some cpu ∧ twin.domain = core.domain ∧
          twin.performance = core.performance ∧ twin.lowLatencyCache = core.lowLatencyCache) ∧
        ∀ calls : List HostCall,
          cpu ∈ ((Host.ofTopology t).afterAll calls).idleWhole ↔
            s ∈ ((Host.ofTopology t).afterAll calls).idleWhole := by
  refine ⟨?_, fun t ht => ?_⟩
  · rw [build_eq_build_blueprint, Blueprint.exists_build_eq_ok_iff,
      Blueprint.fault?_eq_none_iff_coherent, coherent_blueprint_iff]
  · have hblueprint := blueprint_of_build ht
    refine ⟨?_, fun cpu core s hcore hs => ?_⟩
    · rw [Topology.nrCpus, hblueprint, size_cores_blueprint]
    · obtain ⟨hne, htwin⟩ : s ≠ cpu ∧ t.core? s = some { core with sibling := some cpu } := by
        rw [Topology.core?, hblueprint] at hcore ⊢
        exact p.paired_blueprint cpu core s hcore hs
      refine ⟨hne, ⟨_, htwin, rfl, rfl, rfl, rfl⟩, fun calls => ?_⟩
      rw [Host.mem_idleWhole, Host.mem_idleWhole]
      exact Host.whole_iff_of_sibling?_eq ((Host.sibling?_afterAll calls hcore).trans hs)
        (Host.sibling?_afterAll calls htwin)

/-- A performance core with two threads, beside two efficiency cores. -/
def smallHybrid : Topology where
  toBlueprint := (hybrid 1 2).blueprint
  faultless := by decide +kernel

theorem build_iff_and_siblings_coherent_smallHybrid :
    (hybrid 1 2).build = .ok smallHybrid ∧ smallHybrid.core? 0 = some (performanceCore 0) ∧
      1 ∉ ((Host.ofTopology smallHybrid).afterAll [.setIdle 1 false]).idleWhole ∧
      0 ∉ ((Host.ofTopology smallHybrid).afterAll [.setIdle 1 false]).idleWhole := by
  have ht : (hybrid 1 2).build = .ok smallHybrid := by
    rw [build_eq_build_blueprint]
    exact Blueprint.build_eq_ok_iff.2 rfl
  have hcore : smallHybrid.core? 0 = some (performanceCore 0) := by decide +kernel
  have hbusy : 1 ∉ ((Host.ofTopology smallHybrid).afterAll [.setIdle 1 false]).idleWhole := by
    decide +kernel
  obtain ⟨-, hsiblings⟩ := (build_iff_and_siblings_coherent (hybrid 1 2)).2 smallHybrid ht
  obtain ⟨-, -, hwhole⟩ := hsiblings 0 _ 1 hcore rfl
  exact ⟨ht, hcore, hbusy, fun h => hbusy ((hwhole _).1 h)⟩

end Preset

end CoreSteer
