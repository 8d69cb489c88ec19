import CoreSteer.Proofs.Topology.Faultless
/-!
# Which blueprints can be built, and how the cores are divided

A blueprint is `Blueprint.Coherent` if it meets what is asked of one, and these are the blueprints that
can be built.  What keeps another one from being built is a `Blueprint.Flaw`, and the one that is
reported is there.

In what is built the cores are `Topology.Divided`: each is in the mask of its domain and in no other,
and either in the mask of the performance cores or in that of the efficiency cores.
-/
namespace CoreSteer

namespace Blueprint

variable {b : Blueprint} {e : StartError}

/-- What is asked of the description of a machine. -/
structure Coherent (b : Blueprint) : Prop where
  /-- There are cores. -/
  size_pos : 1 ≤ b.cores.size
  /-- There are no more than a mask can hold. -/
  size_le : b.cores.size ≤ 256
  /-- The domain of a core is in range. -/
  domain_lt : ∀ (cpu : Nat) core, b.cores[cpu]? = some core → core.domain < 8
  /-- The sibling of a core is another core. -/
  sibling : ∀ (cpu : Nat) core s, b.cores[cpu]? = some core → core.sibling = some s →
    s < b.cores.size ∧ s ≠ cpu
  /-- The low-latency domain has a core. -/
  lowLatency : ∃ (cpu : Nat) (core : CoreDesc),
    b.cores[cpu]? = some core ∧ core.domain = b.lowLatencyDomain
  /-- The domain that boosts highest has a core, if there is such a domain. -/
  freq : ∀ d, b.freqDomain = some d →
    ∃ (cpu : Nat) (core : CoreDesc), b.cores[cpu]? = some core ∧ core.domain = d

lemma fault?_eq_none_iff_coherent : b.fault? = none ↔ b.Coherent := by
  rw [fault?_eq_none_iff, uses_iff]
  constructor
  · rintro ⟨hpos, hle, hcores, hlow, hfreq⟩
    refine ⟨hpos, hle, fun cpu core hc => ?_, fun cpu core s hc hs => ?_, hlow, fun d hd => ?_⟩
    · exact (coreFault?_eq_none_iff.1 (hcores cpu core hc)).1
    · exact (coreFault?_eq_none_iff.1 (hcores cpu core hc)).2 s hs
    · exact uses_iff.1 (hfreq d hd)
  · intro h
    refine ⟨h.size_pos, h.size_le, fun cpu core hc => ?_, h.lowLatency, fun d hd => ?_⟩
    · exact coreFault?_eq_none_iff.2 ⟨h.domain_lt cpu core hc, fun s => h.sibling cpu core s hc⟩
    · exact uses_iff.2 (h.freq d hd)

lemma exists_build_eq_ok_iff : (∃ t, b.build = .ok t) ↔ b.fault? = none := by
  constructor
  · rintro ⟨t, ht⟩
    rw [← build_eq_ok_iff.1 ht]
    exact t.faultless
  · intro h
    exact ⟨⟨b, h⟩, build_eq_ok_iff.2 rfl⟩

/-! ## Flaws -/

/-- What may be wrong with a blueprint. -/
inductive Flaw (b : Blueprint) : StartError → Prop where
  /-- There are no cores. -/
  | noCores (h : b.cores.size = 0) : b.Flaw .noCores
  /-- There are more cores than a mask can hold. -/
  | tooManyCores (h : 256 < b.cores.size) : b.Flaw (.tooManyCores b.cores.size)
  /-- A core's domain is out of range. -/
  | domain (cpu : Nat) (core : CoreDesc) (hcore : b.cores[cpu]? = some core) (h : 8 ≤ core.domain) :
      b.Flaw (.domainOutOfRange cpu core.domain)
  /-- A core's sibling is no core, or that core itself. -/
  | sibling (cpu : Nat) (core : CoreDesc) (s : Nat) (hcore : b.cores[cpu]? = some core)
      (hs : core.sibling = some s) (h : b.cores.size ≤ s ∨ s = cpu) : b.Flaw (.noSuchSibling cpu s)
  /-- No core belongs to the low-latency domain. -/
  | lowLatency (h : b.uses b.lowLatencyDomain = false) :
      b.Flaw (.emptyLowLatencyDomain b.lowLatencyDomain)
  /-- No core belongs to the domain that boosts highest. -/
  | freq (d : Nat) (hd : b.freqDomain = some d) (h : b.uses d = false) :
      b.Flaw (.emptyFrequencyDomain d)

lemma flaw_of_coreFault? {cpu : Nat} {core : CoreDesc} (hcore : b.cores[cpu]? = some core)
    (h : b.coreFault? cpu core = some e) : b.Flaw e := by
  rw [coreFault?] at h
  split at h
  · next hd =>
    cases h
    exact .domain cpu core hcore hd
  · split at h
    · cases h
    · next s hs =>
      split at h
      · next hwrong =>
        cases h
        exact .sibling cpu core s hcore hs hwrong
      · cases h

/-- What is found to be wrong is wrong. -/
lemma flaw_of_fault? (h : b.fault? = some e) : b.Flaw e := by
  rw [fault?] at h
  split at h
  · next hnone =>
    cases h
    exact .noCores hnone
  · split at h
    · next hmany =>
      cases h
      exact .tooManyCores hmany
    · split at h
      · next e' he =>
        obtain ⟨⟨core, cpu⟩, hmem, hfault⟩ := List.exists_of_findSome?_eq_some he
        have hcore : b.cores[cpu]? = some core := by
          simpa using List.mk_mem_zipIdx_iff_getElem?.1 hmem
        cases h
        exact flaw_of_coreFault? hcore hfault
      · split at h
        · next hlow =>
          cases h
          exact .lowLatency (by simpa using hlow)
        · split at h
          · cases h
          · next d hd =>
            split at h
            · next hfreq =>
              cases h
              exact .freq d hd (by simpa using hfreq)
            · cases h

end Blueprint

/-! ## How the cores are divided -/

lemma CpuMask.inter_eq_empty {m n : CpuMask} (h : ∀ cpu, cpu ∈ m → ¬ cpu ∈ n) : m ∩ n = empty :=
  ext_mem fun cpu =>
    ⟨fun hc => absurd (mem_inter.1 hc).2 (h cpu (mem_inter.1 hc).1),
      fun hc => absurd hc (not_mem_empty cpu)⟩

namespace Topology

variable {t : Topology} {d cpu : Nat} {m : CpuMask}

lemma domainOf?_eq_some_iff :
    t.domainOf? cpu = some d ↔ ∃ core, t.core? cpu = some core ∧ core.domain = d := by
  rw [domainOf?, Option.map_eq_some_iff]

lemma domainOf?_lt (h : t.domainOf? cpu = some d) : d < t.nrDomains := by
  obtain ⟨core, hcore, rfl⟩ := domainOf?_eq_some_iff.1 h
  exact domain_lt hcore

/-- The largest domain of a core is the last one. -/
lemma exists_domainOf?_eq_last (t : Topology) :
    ∃ cpu d, t.domainOf? cpu = some d ∧ t.nrDomains = d + 1 := by
  have hpos : 0 < t.nrDomains := Nat.zero_lt_of_lt t.lowLatencyDomain_lt
  have hfewer : ¬ ∀ cpu core, t.core? cpu = some core → core.domain < t.nrDomains - 1 := by
    rw [← nrDomains_le_iff]
    omega
  simp only [Classical.not_forall, Nat.not_lt] at hfewer
  obtain ⟨cpu, core, hcore, hle⟩ := hfewer
  have hlt := domain_lt hcore
  exact ⟨cpu, core.domain, domainOf?_eq_some_iff.2 ⟨core, hcore, rfl⟩, by omega⟩

lemma domainMask?_eq_none_iff : t.domainMask? d = none ↔ t.nrDomains ≤ d := by
  rw [domainMask?, ite_eq_right_iff]
  simp

lemma exists_domainMask? (h : d < t.nrDomains) : ∃ m, t.domainMask? d = some m :=
  ⟨_, if_pos h⟩

lemma mem_domainMask? (h : t.domainMask? d = some m) : cpu ∈ m ↔ t.domainOf? cpu = some d := by
  rw [domainMask?] at h
  split at h
  · cases h
    rw [mem_cpusWhere_iff, domainOf?_eq_some_iff]
    simp
  · cases h

lemma mem_allCpus : cpu ∈ t.allCpus ↔ cpu < t.nrCpus := by
  rw [allCpus, CpuMask.mem_firstN]
  exact and_iff_right_of_imp fun h => Nat.lt_of_lt_of_le h t.nrCpus_le

lemma mem_performanceMask :
    cpu ∈ t.performanceMask ↔ ∃ core, t.core? cpu = some core ∧ core.performance = true :=
  mem_cpusWhere_iff

lemma mem_efficiencyMask :
    cpu ∈ t.efficiencyMask ↔ ∃ core, t.core? cpu = some core ∧ core.performance = false := by
  rw [efficiencyMask, mem_cpusWhere_iff]
  simp

/-- How the masks divide the cores. -/
structure Divided (t : Topology) : Prop where
  /-- The number of domains is one more than the largest domain of a core. -/
  nrDomains_eq : ∃ cpu d, t.domainOf? cpu = some d ∧ t.nrDomains = d + 1 ∧
    ∀ cpu' d', t.domainOf? cpu' = some d' → d' ≤ d
  /-- Every domain up to the largest has a mask, and no other domain has one. -/
  domainMask?_isSome : ∀ d, (∃ m, t.domainMask? d = some m) ↔ d < t.nrDomains
  /-- The mask of a domain holds the cores of the domain. -/
  mem_domainMask? : ∀ d m, t.domainMask? d = some m → ∀ cpu, cpu ∈ m ↔ t.domainOf? cpu = some d
  /-- No core is in the masks of two domains. -/
  disjoint : ∀ d m d' m', t.domainMask? d = some m → t.domainMask? d' = some m' → d ≠ d' →
    m ∩ m' = CpuMask.empty
  /-- All cores together are those below the number of cores. -/
  mem_allCpus : ∀ cpu, cpu ∈ t.allCpus ↔ cpu < t.cores.size
  /-- Each of them is in the mask of a domain. -/
  union : ∀ cpu, cpu ∈ t.allCpus ↔ ∃ d m, t.domainMask? d = some m ∧ cpu ∈ m
  /-- The performance cores are in one mask. -/
  mem_performanceMask : ∀ cpu,
    cpu ∈ t.performanceMask ↔ ∃ core, t.core? cpu = some core ∧ core.performance = true
  /-- The efficiency cores are in another. -/
  mem_efficiencyMask : ∀ cpu,
    cpu ∈ t.efficiencyMask ↔ ∃ core, t.core? cpu = some core ∧ core.performance = false
  /-- Each of all cores is in exactly one of the two. -/
  complementary : t.performanceMask ∩ t.efficiencyMask = CpuMask.empty ∧
    ∀ cpu, cpu ∈ t.allCpus ↔ cpu ∈ t.performanceMask ∨ cpu ∈ t.efficiencyMask

lemma exists_core?_iff : (∃ core, t.core? cpu = some core) ↔ cpu < t.nrCpus := by
  rw [← Option.isSome_iff_exists, Option.isSome_iff_ne_none, Ne, core?_eq_none_iff, Nat.not_le]

lemma divided (t : Topology) : t.Divided where
  nrDomains_eq := by
    obtain ⟨cpu, d, hd, hlast⟩ := t.exists_domainOf?_eq_last
    refine ⟨cpu, d, hd, hlast, fun cpu' d' hd' => ?_⟩
    have hlt := domainOf?_lt hd'
    omega
  domainMask?_isSome d := by
    rw [← Option.isSome_iff_exists, Option.isSome_iff_ne_none, Ne, domainMask?_eq_none_iff, Nat.not_le]
  mem_domainMask? _ _ h _ := mem_domainMask? h
  disjoint d m d' m' hm hm' hne := by
    refine CpuMask.inter_eq_empty fun cpu hc hc' => hne ?_
    have hd := (mem_domainMask? hm).1 hc
    exact Option.some.inj (hd.symm.trans ((mem_domainMask? hm').1 hc'))
  mem_allCpus _ := mem_allCpus
  union cpu := by
    rw [mem_allCpus]
    constructor
    · intro h
      obtain ⟨d, hd⟩ := exists_domainOf?_eq h
      obtain ⟨m, hm⟩ := exists_domainMask? (domainOf?_lt hd)
      exact ⟨d, m, hm, (mem_domainMask? hm).2 hd⟩
    · rintro ⟨d, m, hm, hc⟩
      obtain ⟨core, hcore, -⟩ := domainOf?_eq_some_iff.1 ((mem_domainMask? hm).1 hc)
      exact lt_nrCpus hcore
  mem_performanceMask _ := mem_performanceMask
  mem_efficiencyMask _ := mem_efficiencyMask
  complementary := by
    constructor
    · refine CpuMask.inter_eq_empty fun cpu hp he => ?_
      obtain ⟨core, hcore, hperf⟩ := mem_performanceMask.1 hp
      obtain ⟨core', hcore', heff⟩ := mem_efficiencyMask.1 he
      obtain rfl := Option.some.inj (hcore.symm.trans hcore')
      exact Bool.false_ne_true (heff.symm.trans hperf)
    · intro cpu
      rw [mem_allCpus, mem_performanceMask, mem_efficiencyMask, ← exists_core?_iff]
      constructor
      · rintro ⟨core, hcore⟩
        cases hperf : core.performance with
        | true => exact .inl ⟨core, hcore, hperf⟩
        | false => exact .inr ⟨core, hcore, hperf⟩
      · rintro (⟨core, hcore, -⟩ | ⟨core, hcore, -⟩)
        · exact ⟨core, hcore⟩
        · exact ⟨core, hcore⟩

end Topology

namespace Blueprint

/-- A blueprint can be built exactly when it is coherent.  What is built from it has its cores, and its
masks divide them; where nothing is built, the error names a flaw. -/
theorem build_iff_coherent_and_divided (b : Blueprint) :
    ((∃ t, b.build = .ok t) ↔ b.Coherent) ∧
      (∀ t, b.build = .ok t → t.toBlueprint = b ∧ t.Divided) ∧
      ∀ e, b.build = .error e → b.Flaw e := by
  refine ⟨?_, fun t ht => ⟨build_eq_ok_iff.1 ht, t.divided⟩,
    fun e he => flaw_of_fault? (build_eq_error_iff.1 he)⟩
  rw [exists_build_eq_ok_iff, fault?_eq_none_iff_coherent]

end Blueprint

namespace Topology

/-- Two threads of a performance core in a high domain, an efficiency core in the lowest, and nothing in
the domains between. -/
def sparse : Topology where
  kind := .hybrid
  cores := #[⟨5, 0, 0, some 2, true, true, true⟩, ⟨0, 0, 0, none, false, false, false⟩,
    ⟨5, 0, 0, some 0, true, true, true⟩]
  lowLatencyDomain := 5
  freqDomain := some 0
  faultless := by decide +kernel

theorem build_iff_coherent_and_divided_sparse :
    sparse.toBlueprint.build = .ok sparse ∧ sparse.toBlueprint.Coherent ∧ sparse.nrDomains = 6 ∧
      sparse.domainMask? 5 = some (.ofList [0, 2]) ∧ sparse.Divided := by
  have ht : sparse.toBlueprint.build = .ok sparse := Blueprint.build_eq_ok_iff.2 rfl
  obtain ⟨hbuilds, hdivides, -⟩ := Blueprint.build_iff_coherent_and_divided sparse.toBlueprint
  exact ⟨ht, hbuilds.1 ⟨sparse, ht⟩, by decide +kernel, by decide +kernel, (hdivides sparse ht).2⟩

end Topology

end CoreSteer
