import CoreSteer.Proofs.Machine.Traces
/-!
# How far the low-latency domain is kept free for games

While the low-latency domain runs gaming tasks, other work is placed there only after all stages
that come before it have failed.  For a task that comes from there these are the stages of all other
domains.  For a task that comes from elsewhere they are those of its own domain, of the domains
numbered below the low-latency domain, and, for batch work, of the domain that boosts highest: idle
cores of domains numbered above it do not keep the task out.
-/
namespace CoreSteer

namespace Machine

variable {m : Machine} {task : Task} {s : TaskState} {d low prev : Nat}

/-! ## Reaching a stage -/

/-- A placement ends in a domain exactly if that has a free core and no stage has one that comes
before the first stage of the domain. -/
lemma exists_found_in_iff (hu : m.host.Undisturbed) {as bs : List Stage} {g : Stage}
    (hg : g.set = .domain low) (has : ∀ a ∈ as, ∃ d ≠ low, a.set = .domain d) :
    (∃ cpu, (m.runStages task s (as ++ g :: bs)).1 = some cpu ∧
        m.topology.domainOf? cpu = some low) ↔
      (∃ c, m.Free task (.domain low) c) ∧ ∀ a ∈ as, ∀ c, ¬m.Free task a.set c := by
  constructor
  · rintro ⟨cpu, hfound, hlow⟩
    refine ⟨?_, ?_⟩
    · rcases m.runStages_cases task s (as ++ g :: bs) with
        ⟨lost, hrun⟩ | ⟨g', -, cpu', first, lost, hfree, hrun⟩
      · rw [hrun] at hfound
        cases hfound
      · rw [hrun] at hfound
        obtain rfl : cpu' = cpu := Option.some.inj hfound
        exact ⟨cpu', free_domain_iff.2 ⟨hlow, hfree.2⟩⟩
    · intro a ha c hc
      obtain ⟨as₁, as₂, rfl⟩ := List.append_of_mem ha
      -- a stage up to this one ends the placement, in another domain
      obtain ⟨a', ha', found, first, hfree, hrun⟩ := exists_runStages_eq hu s as₁ (as₂ ++ g :: bs) hc
      rw [List.append_assoc, List.cons_append, hrun] at hfound
      obtain rfl : found = cpu := Option.some.inj hfound
      have hmem : a' ∈ as₁ ++ a :: as₂ := by
        rw [List.mem_append, List.mem_singleton] at ha'
        rw [List.mem_append, List.mem_cons]
        tauto
      obtain ⟨d, hne, hset⟩ := has a' hmem
      rw [hset, free_domain_iff, hlow] at hfree
      exact hne (Option.some.inj hfree.1).symm
  · rintro ⟨⟨c, hc⟩, hnone⟩
    rw [runStages_append hnone]
    rw [← hg] at hc
    obtain ⟨g', hg', found, first, hfree, hrun⟩ := exists_runStages_eq hu s [] bs hc
    obtain rfl := List.mem_singleton.1 hg'
    rw [hg, free_domain_iff] at hfree
    exact ⟨found, congrArg Prod.fst hrun, hfree.1⟩

/-! ## The stages before the low-latency domain -/

/-- Domain `d` is tried before the low-latency domain for other work from core `prev`, while that
domain runs gaming tasks. -/
def TriedBefore (m : Machine) (s : TaskState) (prev d : Nat) : Prop :=
  m.topology.domainOf? prev = some m.topology.lowLatencyDomain ∨
    m.topology.domainOf? prev = some d ∨ d < m.topology.lowLatencyDomain ∨
      s.workload = .batch ∧ m.config.asymmetricBoost = true ∧ m.topology.freqDomain = some d

lemma boostDomain?_eq_some_iff : m.boostDomain? = some d ↔
    m.config.asymmetricBoost = true ∧ m.topology.freqDomain = some d := by
  simp [boostDomain?]

lemma lowLatencyBusy_iff : m.lowLatencyBusy = true ↔
    ∃ l, m.load? m.topology.lowLatencyDomain = some l ∧ 0 < l.gaming := by
  simp [lowLatencyBusy, Option.any_eq_true]

lemma mem_otherDomains {d' : Nat} :
    d' ∈ m.otherDomains d ↔ d' < m.topology.nrDomains ∧ d' ≠ d := by
  simp [otherDomains]

/-- The domains before another one come first. -/
lemma exists_otherDomains_eq (hlow : low < m.topology.nrDomains) (hd : low ≠ d) :
    ∃ bs, m.otherDomains d = (List.range low).filter (· != d) ++ low :: bs := by
  obtain ⟨k, hk⟩ := Nat.exists_eq_add_of_lt hlow
  rw [otherDomains, hk, Nat.add_assoc, List.range_add, List.filter_append,
    List.range_succ_eq_map, List.map_cons, Nat.add_zero, List.filter_cons_of_pos (by simpa using hd)]
  exact ⟨_, rfl⟩

/-- The stages for batch work that come before the domain that a task was in. -/
def batchStages (m : Machine) (s : TaskState) : List Stage :=
  if s.workload = .batch then
    m.boostDomain?.toList.map fun d => ⟨.domain d, false, .counter .freqDomainPlacements⟩
  else []

lemma mem_batchStages {a : Stage} :
    a ∈ m.batchStages s ↔ ∃ d', (s.workload = .batch ∧ m.config.asymmetricBoost = true ∧
      m.topology.freqDomain = some d') ∧
        a = ⟨.domain d', false, .counter .freqDomainPlacements⟩ := by
  simp only [batchStages, List.mem_ite_nil_right, List.mem_map, Option.mem_toList,
    boostDomain?_eq_some_iff]
  constructor
  · rintro ⟨hbatch, d', hboost, rfl⟩
    exact ⟨d', ⟨hbatch, hboost⟩, rfl⟩
  · rintro ⟨d', ⟨hbatch, hboost⟩, rfl⟩
    exact ⟨hbatch, d', hboost, rfl⟩

/-- The stages for other work, while the low-latency domain runs gaming tasks. -/
lemma cacheStages_of_busy (hbusy : m.lowLatencyBusy = true)
    (hwork : m.tunables.load.workMode = false) (hwants : s.flags.wantsLowLatency = false) :
    m.cacheStages s d =
      (if d = m.topology.lowLatencyDomain then (m.otherDomains d).map fun d' =>
        ⟨.domain d', false, .counter .compactionOverflows⟩ else []) ++
      m.batchStages s ++ ⟨.domain d, false, .counter .domainLocal⟩ ::
        (m.otherDomains d).map fun d' => ⟨.domain d', false, .counter .domainCross⟩ := by
  by_cases hd : d = m.topology.lowLatencyDomain <;>
    simp [cacheStages, batchStages, hbusy, hwork, hwants, hd]

/-- Stages search the domains that are tried before the low-latency domain, and no others. -/
structure SearchesBefore (m : Machine) (s : TaskState) (prev : Nat) (as : List Stage) : Prop where
  /-- Each stage searches a domain that is tried before. -/
  domain : ∀ a ∈ as, ∃ d ≠ m.topology.lowLatencyDomain,
    a.set = .domain d ∧ m.TriedBefore s prev d
  /-- Each domain that is tried before has a stage. -/
  stage : ∀ d < m.topology.nrDomains, d ≠ m.topology.lowLatencyDomain → m.TriedBefore s prev d →
    ∃ a ∈ as, a.set = .domain d

lemma domain_of_mem_batchStages
    (hfreq : m.topology.freqDomain ≠ some m.topology.lowLatencyDomain) {a : Stage}
    (ha : a ∈ m.batchStages s) : ∃ d ≠ m.topology.lowLatencyDomain,
      a.set = .domain d ∧ m.TriedBefore s prev d := by
  obtain ⟨d, hboost, rfl⟩ := mem_batchStages.1 ha
  refine ⟨d, ?_, rfl, .inr (.inr (.inr hboost))⟩
  rintro rfl
  exact hfreq hboost.2.2

/-- For a task that comes from the low-latency domain all other domains are tried before. -/
lemma searchesBefore_of_within
    (hd : m.topology.domainOf? prev = some m.topology.lowLatencyDomain)
    (hfreq : m.topology.freqDomain ≠ some m.topology.lowLatencyDomain) :
    m.SearchesBefore s prev (((m.otherDomains m.topology.lowLatencyDomain).map fun d' =>
      ⟨.domain d', false, .counter .compactionOverflows⟩) ++ m.batchStages s) where
  domain := by
    intro a ha
    rcases List.mem_append.1 ha with ha | ha
    · obtain ⟨d, hother, rfl⟩ := List.mem_map.1 ha
      exact ⟨d, (mem_otherDomains.1 hother).2, rfl, .inl hd⟩
    · exact domain_of_mem_batchStages hfreq ha
  stage := by
    intro d hlt hne _
    have hother := mem_otherDomains.2 ⟨hlt, hne⟩
    exact ⟨_, List.mem_append_left _ (List.mem_map_of_mem hother), rfl⟩

/-- For a task that comes from elsewhere its own domain and those numbered below are tried before,
and for batch work the domain that boosts highest. -/
lemma searchesBefore_of_elsewhere (hd : m.topology.domainOf? prev = some d)
    (hne : d ≠ m.topology.lowLatencyDomain)
    (hfreq : m.topology.freqDomain ≠ some m.topology.lowLatencyDomain) :
    m.SearchesBefore s prev (m.batchStages s ++ ⟨.domain d, false, .counter .domainLocal⟩ ::
      ((List.range m.topology.lowLatencyDomain).filter (· != d)).map fun d' =>
        ⟨.domain d', false, .counter .domainCross⟩) where
  domain := by
    intro a ha
    simp only [List.mem_append, List.mem_cons, List.mem_map, List.mem_filter,
      List.mem_range] at ha
    rcases ha with ha | rfl | ⟨d', ⟨hbelow, -⟩, rfl⟩
    · exact domain_of_mem_batchStages hfreq ha
    · exact ⟨d, hne, rfl, .inr (.inl hd)⟩
    · exact ⟨d', hbelow.ne, rfl, .inr (.inr (.inl hbelow))⟩
  stage := by
    intro d' _ _ htried
    simp only [List.mem_append, List.mem_cons, List.mem_map, List.mem_filter, List.mem_range]
    by_cases hown : d' = d
    · subst hown
      exact ⟨_, .inr (.inl rfl), rfl⟩
    · rcases htried with hfrom | hfrom | hbelow | hboost
      · exact absurd (Option.some.inj (hd.symm.trans hfrom)) hne
      · exact absurd (Option.some.inj (hfrom.symm.trans hd)) hown
      · exact ⟨_, .inr (.inr ⟨d', ⟨hbelow, by simpa using hown⟩, rfl⟩), rfl⟩
      · exact ⟨_, .inl (mem_batchStages.2 ⟨d', hboost, rfl⟩), rfl⟩

/-- Where the first stage of the low-latency domain comes for other work, and what comes before. -/
lemma exists_searchesBefore (hd : m.topology.domainOf? prev = some d)
    (hfreq : m.topology.freqDomain ≠ some m.topology.lowLatencyDomain)
    (hbusy : m.lowLatencyBusy = true) (hwork : m.tunables.load.workMode = false)
    (hwants : s.flags.wantsLowLatency = false) :
    ∃ as g bs, m.cacheStages s d = as ++ g :: bs ∧
      g.set = .domain m.topology.lowLatencyDomain ∧ m.SearchesBefore s prev as := by
  rw [cacheStages_of_busy hbusy hwork hwants]
  by_cases hlow : d = m.topology.lowLatencyDomain
  · subst hlow
    rw [if_pos rfl]
    exact ⟨_, _, _, rfl, rfl, searchesBefore_of_within hd hfreq⟩
  · obtain ⟨bs, hothers⟩ := exists_otherDomains_eq m.topology.lowLatencyDomain_lt (Ne.symm hlow)
    rw [if_neg hlow, hothers, List.nil_append, List.map_append, List.map_cons, ← List.cons_append,
      ← List.append_assoc]
    exact ⟨_, _, _, rfl, rfl, searchesBefore_of_elsewhere hd hlow hfreq⟩

/-! ## Where other work goes -/

/-- While the low-latency domain runs gaming tasks, and the domain that boosts highest is another
one, work that does not want low latency is placed there, outside work mode and if nobody else takes
cores, exactly if that domain has a free core and none that is tried before has one.  So a task that
comes from there is kept out as long as any other core is free; a task that comes from elsewhere is
kept out only by free cores of its own domain, of the domains numbered below, and, for batch work, of
the domain that boosts highest. -/
theorem kept_out_by_earlier_domains (m : Machine) (task : Task) (s : TaskState) (prev : Nat)
    (hu : m.host.Undisturbed) (hprev : prev < m.topology.nrCpus)
    (hfreq : m.topology.freqDomain ≠ some m.topology.lowLatencyDomain)
    (hbusy : ∃ l, m.load? m.topology.lowLatencyDomain = some l ∧ 0 < l.gaming)
    (hwork : m.tunables.load.workMode = false) (hwants : s.flags.wantsLowLatency = false) :
    (∃ cpu, (m.place .cacheDomain task s prev).1 = some cpu ∧
        m.topology.domainOf? cpu = some m.topology.lowLatencyDomain) ↔
      (∃ c, m.Free task (.domain m.topology.lowLatencyDomain) c) ∧
        ∀ d ≠ m.topology.lowLatencyDomain, m.TriedBefore s prev d →
          ∀ c, ¬m.Free task (.domain d) c := by
  obtain ⟨d, hd⟩ := Topology.exists_domainOf?_eq hprev
  obtain ⟨as, g, bs, hstages, hg, hbefore⟩ :=
    exists_searchesBefore hd hfreq (lowLatencyBusy_iff.2 hbusy) hwork hwants
  have has : ∀ a ∈ as, ∃ d ≠ m.topology.lowLatencyDomain, a.set = .domain d := by
    intro a ha
    obtain ⟨d', hne, hset, -⟩ := hbefore.domain a ha
    exact ⟨d', hne, hset⟩
  rw [place_cacheDomain hd, hstages, exists_found_in_iff hu hg has]
  refine and_congr_right fun _ => ?_
  constructor
  · intro h d' hne htried c hc
    obtain ⟨a, ha, hset⟩ := hbefore.stage d' (lt_nrDomains_of_free hc) hne htried
    exact h a ha c (hset ▸ hc)
  · intro h a ha c hc
    obtain ⟨d', hne, hset, htried⟩ := hbefore.domain a ha
    exact h d' hne htried c (hset ▸ hc)

end Machine

/-- Two cores in the low-latency domain, and two more domains with one core each. -/
def Topology.threeDomains : Topology where
  kind := .cacheDomains
  cores := #[⟨0, 0, 0, none, true, true, false⟩, ⟨0, 0, 0, none, true, true, false⟩,
    ⟨1, 0, 0, none, false, true, false⟩, ⟨2, 0, 0, none, false, true, false⟩]
  faultless := by decide +kernel

namespace Machine

/-- A game runs on the first core and something else in the second domain. -/
def besideGame : Machine :=
  (make .threeDomains {} none {}
    { Host.ofTopology .threeDomains with idle := .ofList [1, 3] }).modifyLoad 0 (·.start true)

/-- A compiler that may run everywhere. -/
def compiler : Task := { pid := 7, tgid := 7, name := .ofString "cc1", allowed := .firstN 4 }

/-- Batch work that finds the second domain busy is placed beside the game, although the core of the
third domain is idle. -/
theorem batch_work_joins_game :
    besideGame.host.Undisturbed ∧ 2 < besideGame.topology.nrCpus ∧
      besideGame.topology.freqDomain ≠ some besideGame.topology.lowLatencyDomain ∧
      (∃ l, besideGame.load? besideGame.topology.lowLatencyDomain = some l ∧ 0 < l.gaming) ∧
      besideGame.tunables.load.workMode = false ∧
      (besideGame.place .cacheDomain compiler { workload := .batch } 2).1 = some 1 ∧
      besideGame.topology.domainOf? 1 = some besideGame.topology.lowLatencyDomain ∧
      besideGame.topology.domainOf? 3 = some 2 ∧ 3 ∈ compiler.allowed ∧ 3 ∈ besideGame.host.idle :=
  ⟨Host.undisturbed_of_lost_eq_empty rfl, by decide, by decide, ⟨_, rfl, by decide⟩, rfl,
    by decide +kernel⟩

/-- Batch work that comes from the domain where the game runs leaves it. -/
theorem kept_out_by_earlier_domains_besideGame :
    besideGame.host.Undisturbed ∧ 0 < besideGame.topology.nrCpus ∧
      besideGame.topology.freqDomain ≠ some besideGame.topology.lowLatencyDomain ∧
      (∃ l, besideGame.load? besideGame.topology.lowLatencyDomain = some l ∧ 0 < l.gaming) ∧
      besideGame.tunables.load.workMode = false ∧
      (besideGame.place .cacheDomain compiler { workload := .batch } 0).1 = some 3 ∧
      ¬∃ cpu, (besideGame.place .cacheDomain compiler { workload := .batch } 0).1 = some cpu ∧
        besideGame.topology.domainOf? cpu = some besideGame.topology.lowLatencyDomain := by
  have hu : besideGame.host.Undisturbed := Host.undisturbed_of_lost_eq_empty rfl
  have hfreq : besideGame.topology.freqDomain ≠ some besideGame.topology.lowLatencyDomain := by
    decide
  have hbusy : ∃ l, besideGame.load? besideGame.topology.lowLatencyDomain = some l ∧
      0 < l.gaming := ⟨_, rfl, by decide⟩
  refine ⟨hu, by decide, hfreq, hbusy, rfl, by decide +kernel, ?_⟩
  rw [kept_out_by_earlier_domains besideGame compiler { workload := .batch } 0 hu (by decide) hfreq
    hbusy rfl rfl]
  rintro ⟨-, hnone⟩
  refine hnone 2 (by decide) (.inl rfl) 3 (free_domain_iff.2 ⟨rfl, ?_, ?_⟩)
  · decide +kernel
  · decide +kernel

end Machine

end CoreSteer
