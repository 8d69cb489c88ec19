import CoreSteer.Proofs.Machine.IdleSearch
/-!
# Placing a task misses no idle core

A placement runs through stages, and where nobody else takes cores a stage is passed over only if
no core of it is free.  So the task goes to a core of the first stage that has a free one.  On a
machine with cache domains the stages end with the domain that the task was in and all others,
which together have all cores, and the stages that come first are those that it prefers.
-/
namespace CoreSteer.Machine

variable {m : Machine} {task : Task} {s : TaskState} {cpu d : Nat}

/-! ## Stages -/

/-- Stages without a free core are passed over. -/
lemma runStages_append {as : List Stage} (h : ∀ g ∈ as, ∀ cpu, ¬m.Free task g.set cpu)
    (bs : List Stage) : m.runStages task s (as ++ bs) = m.runStages task s bs := by
  induction as with
  | nil => rfl
  | cons g as ih =>
    rw [List.forall_mem_cons] at h
    rw [List.cons_append, runStages, pickIdle_of_forall_not_free h.1]
    exact ih h.2

lemma runStages_of_forall_not_free {stages : List Stage}
    (h : ∀ g ∈ stages, ∀ cpu, ¬m.Free task g.set cpu) :
    m.runStages task s stages = (none, m) := by
  simpa [runStages] using runStages_append (s := s) h []

/-- A placement comes no further than to a stage with a free core. -/
lemma exists_runStages_eq (hu : m.host.Undisturbed) (s : TaskState) (as bs : List Stage)
    {g : Stage} (hcpu : m.Free task g.set cpu) :
    ∃ g' ∈ as ++ [g], ∃ found first, m.Free task g'.set found ∧
      m.runStages task s (as ++ g :: bs) =
        (some found, (m.claimed g'.set found first).creditPlacement task s found g'.credit) := by
  -- a stage with a free core ends the placement
  have hends : ∀ (g : Stage) (bs : List Stage), (∃ c, m.Free task g.set c) →
      ∃ found first, m.Free task g.set found ∧ m.runStages task s (g :: bs) =
        (some found, (m.claimed g.set found first).creditPlacement task s found g.credit) := by
    rintro g bs ⟨c, hc⟩
    obtain ⟨found, first, -, hbest, hpick⟩ := exists_pickIdle_eq hu hc g.whole
    exact ⟨found, first, hbest.1.1, by rw [runStages, hpick]⟩
  induction as with
  | nil =>
    obtain ⟨found, first, hfound, hrun⟩ := hends g bs ⟨cpu, hcpu⟩
    exact ⟨g, List.mem_cons_self, found, first, hfound, hrun⟩
  | cons a as ih =>
    by_cases ha : ∃ c, m.Free task a.set c
    · obtain ⟨found, first, hfound, hrun⟩ := hends a (as ++ g :: bs) ha
      exact ⟨a, List.mem_cons_self, found, first, hfound, hrun⟩
    · obtain ⟨g', hg', found, first, hfound, hrun⟩ := ih
      refine ⟨g', List.mem_cons_of_mem a hg', found, first, hfound, ?_⟩
      rw [List.cons_append, runStages, pickIdle_of_forall_not_free (not_exists.1 ha)]
      exact hrun

/-- A placement fails exactly if no stage has a free core. -/
lemma runStages_eq_none_iff (hu : m.host.Undisturbed) {stages : List Stage} :
    (m.runStages task s stages).1 = none ↔ ∀ g ∈ stages, ∀ cpu, ¬m.Free task g.set cpu := by
  constructor
  · intro hnone g hg cpu hcpu
    obtain ⟨as, bs, rfl⟩ := List.append_of_mem hg
    obtain ⟨_, _, found, _, _, hrun⟩ := exists_runStages_eq hu s as bs hcpu
    rw [hrun] at hnone
    cases hnone
  · intro h
    rw [runStages_of_forall_not_free h]

/-! ## Cache domains -/

lemma free_domain_iff : m.Free task (.domain d) cpu ↔
    m.topology.domainOf? cpu = some d ∧ cpu ∈ task.allowed ∧ cpu ∈ m.host.idle := by
  refine and_congr_left fun _ => ?_
  rw [Topology.domainOf?, Option.map_eq_some_iff]
  exact exists_congr fun core => and_congr_right fun _ => beq_iff_eq

lemma lt_nrDomains_of_free (h : m.Free task (.domain d) cpu) : d < m.topology.nrDomains := by
  obtain ⟨⟨core, hcore, hdomain⟩, -⟩ := h
  rw [← beq_iff_eq.1 (show (core.domain == d) = true from hdomain)]
  exact Topology.domain_lt hcore

lemma place_cacheDomain {prev : Nat} (h : m.topology.domainOf? prev = some d) :
    m.place .cacheDomain task s prev = m.runStages task s (m.cacheStages s d) := by
  rw [place, stages, h]

/-- The domain that a task was in comes before all others, and after stages that are not counted as
placements in another domain. -/
lemma exists_cacheStages_eq (m : Machine) (s : TaskState) (d : Nat) :
    ∃ front, (∀ g ∈ front, g.credit ≠ .counter .domainCross) ∧
      m.cacheStages s d = front ++ ⟨.domain d, s.flags.wantsLowLatency, .counter .domainLocal⟩ ::
        (m.otherDomains d).map fun d' => ⟨.domain d', false, .counter .domainCross⟩ := by
  unfold cacheStages
  dsimp only
  rw [List.append_assoc, List.singleton_append]
  refine ⟨_, fun g hg => ?_, rfl⟩
  simp only [List.mem_append] at hg
  rcases hg with ((hg | hg) | hg) | hg
  · split at hg
    · obtain ⟨_, -, rfl⟩ := List.mem_map.1 hg
      simp
    · cases hg
  · split at hg
    · rw [List.mem_singleton.1 hg, migrationCredit]
      split <;> simp
    · cases hg
  · split at hg
    · obtain ⟨_, -, rfl⟩ := List.mem_map.1 hg
      simp
    · cases hg
  · split at hg
    · obtain ⟨_, -, rfl⟩ := List.mem_map.1 hg
      simp
    · cases hg

/-- Each domain is searched in some stage. -/
lemma exists_stage_of_lt {d' : Nat} (h : d' < m.topology.nrDomains) (s : TaskState) (d : Nat) :
    ∃ g ∈ m.cacheStages s d, g.set = .domain d' := by
  obtain ⟨front, -, hstages⟩ := m.exists_cacheStages_eq s d
  rw [hstages]
  by_cases hd : d' = d
  · subst hd
    exact ⟨_, List.mem_append_right _ List.mem_cons_self, rfl⟩
  · refine ⟨_, List.mem_append_right _ (List.mem_cons_of_mem _ (List.mem_map_of_mem ?_)), rfl⟩
    exact List.mem_filter.2 ⟨List.mem_range.2 h, bne_iff_ne.2 hd⟩

lemma counters_claimed_credit {credit : Credit} (hcredit : credit ≠ .counter .domainCross)
    (set : CoreSet) (first : Bool) :
    ((m.claimed set cpu first).creditPlacement task s cpu credit).counters.get .domainCross =
      m.counters.get .domainCross := by
  have hset : (set.counter != .domainCross) = true := by cases set <;> rfl
  have hclaim : m.counters.SameBut (· != .domainCross) (m.claimed set cpu first).counters :=
    ((Counters.SameBut.refl _ _).bumpIf (k := .smtIdlePicks) rfl _).bumpIf (k := set.counter) hset _
  cases credit with
  | quiet => exact hclaim _ rfl
  | counter k =>
    have hk : (k != .domainCross) = true := by
      rw [bne_iff_ne]
      rintro rfl
      exact hcredit rfl
    exact hclaim.bump hk _ rfl
  | migration source => exact hclaim.bump (k := .lowLatencyMigrations) rfl _ rfl

/-! ## Where a task goes -/

section Cache

variable {prev : Nat} (hu : m.host.Undisturbed) (hd : m.topology.domainOf? prev = some d)
include hu hd

/-- The stages together search all cores. -/
lemma place_cacheDomain_eq_none_iff (s : TaskState) :
    (m.place .cacheDomain task s prev).1 = none ↔
      ∀ cpu < m.topology.nrCpus, cpu ∈ task.allowed → cpu ∉ m.host.idle := by
  rw [place_cacheDomain hd, runStages_eq_none_iff hu]
  constructor
  · intro h cpu hcpu hallowed hidle
    rcases hcore : m.topology.core? cpu with _ | core
    · exact absurd hcpu (Topology.core?_eq_none_iff.1 hcore).not_gt
    · obtain ⟨g, hg, hset⟩ := exists_stage_of_lt (Topology.domain_lt hcore) s d
      refine h g hg cpu ?_
      rw [hset, free_domain_iff, Topology.domainOf?, hcore]
      exact ⟨rfl, hallowed, hidle⟩
  · rintro h g - cpu ⟨⟨core, hcore, -⟩, hallowed, hidle⟩
    exact h cpu (Topology.lt_nrCpus hcore) hallowed hidle

/-- A task goes to the stage that comes first, if that has a free core. -/
lemma exists_place_of_head {g : Stage} {rest : List Stage}
    (hstages : m.cacheStages s d = g :: rest) (hcpu : m.Free task g.set cpu) :
    ∃ found, (m.place .cacheDomain task s prev).1 = some found ∧ m.Free task g.set found := by
  obtain ⟨g', hg', found, first, hfound, hrun⟩ := exists_runStages_eq hu s [] rest hcpu
  obtain rfl := List.mem_singleton.1 hg'
  refine ⟨found, ?_, hfound⟩
  rw [place_cacheDomain hd, hstages]
  exact congrArg Prod.fst hrun

/-- A task does not leave its domain for another if that has a free core. -/
lemma domainCross_place (s : TaskState) (hcpu : m.Free task (.domain d) cpu) :
    (m.place .cacheDomain task s prev).2.counters.get .domainCross =
      m.counters.get .domainCross := by
  obtain ⟨front, hfront, hstages⟩ := m.exists_cacheStages_eq s d
  obtain ⟨g, hg, found, first, -, hrun⟩ := exists_runStages_eq hu s front
    ((m.otherDomains d).map fun d' => ⟨.domain d', false, .counter .domainCross⟩)
    (g := ⟨.domain d, s.flags.wantsLowLatency, .counter .domainLocal⟩) hcpu
  rw [place_cacheDomain hd, hstages, hrun]
  refine counters_claimed_credit ?_ _ _
  rcases List.mem_append.1 hg with hg | hg
  · exact hfront g hg
  · rw [List.mem_singleton.1 hg]
    simp

end Cache

/-- Placing a task on a machine with cache domains misses no idle core and honours its preferences,
if nobody else takes cores and the previous core exists.  No core is found exactly if none on which
the task may run is idle.  A core of the domain that boosts highest is found, if it has a free one,
in work mode where domains boost differently; and otherwise a core of the low-latency domain, if it
has a free one, for a task that wants low latency outside work mode.  A placement counts as one in
another domain only if the previous domain has no free core. -/
theorem cache_placement_complete (m : Machine) (task : Task) (s : TaskState) (prev : Nat)
    (hu : m.host.Undisturbed) (hprev : prev < m.topology.nrCpus) :
    ((m.place .cacheDomain task s prev).1 = none ↔
      ∀ cpu < m.topology.nrCpus, cpu ∈ task.allowed → cpu ∉ m.host.idle) ∧
    (∀ f, m.tunables.load.workMode = true → m.config.asymmetricBoost = true →
      m.topology.freqDomain = some f → (∃ c, m.Free task (.domain f) c) →
        ∃ cpu, (m.place .cacheDomain task s prev).1 = some cpu ∧ m.Free task (.domain f) cpu) ∧
    (s.flags.wantsLowLatency = true → m.tunables.load.workMode = false →
      (∃ c, m.Free task (.domain m.topology.lowLatencyDomain) c) →
        ∃ cpu, (m.place .cacheDomain task s prev).1 = some cpu ∧
          m.Free task (.domain m.topology.lowLatencyDomain) cpu) ∧
    ((∃ c, m.topology.domainOf? c = m.topology.domainOf? prev ∧ c ∈ task.allowed ∧
      c ∈ m.host.idle) →
        (m.place .cacheDomain task s prev).2.counters.get .domainCross =
          m.counters.get .domainCross) := by
  obtain ⟨d, hd⟩ := Topology.exists_domainOf?_eq hprev
  refine ⟨place_cacheDomain_eq_none_iff hu hd s, ?_, ?_, ?_⟩
  · rintro f hwork hboost hf ⟨c, hc⟩
    have hstages : ∃ rest,
        m.cacheStages s d = ⟨.domain f, true, .counter .freqDomainPlacements⟩ :: rest := by
      rw [cacheStages, boostDomain?, if_pos hboost, hf, hwork]
      exact ⟨_, rfl⟩
    obtain ⟨rest, hstages⟩ := hstages
    exact exists_place_of_head hu hd hstages hc
  · rintro hwants hwork ⟨c, hc⟩
    have hstages : ∃ rest, m.cacheStages s d =
        ⟨.domain m.topology.lowLatencyDomain, true, m.migrationCredit d⟩ :: rest := by
      rw [cacheStages, hwants, hwork]
      exact ⟨_, rfl⟩
    obtain ⟨rest, hstages⟩ := hstages
    exact exists_place_of_head hu hd hstages hc
  · rintro ⟨c, hc⟩
    rw [hd, ← free_domain_iff] at hc
    exact domainCross_place hu hd s hc

/-- Where all cores are idle, a task from the second domain that wants low latency goes to the
first. -/
theorem cache_placement_complete_twoDomains :
    let m : Machine := .make .twoDomains {} none {} (.ofTopology .twoDomains)
    let task : Task := { pid := 1, tgid := 1, name := .ofString "render", allowed := .firstN 2 }
    let s : TaskState := { flags := { wantsLowLatency := true } }
    m.host.Undisturbed ∧ 1 < m.topology.nrCpus ∧
      (∃ cpu, (m.place .cacheDomain task s 1).1 = some cpu ∧ m.Free task (.domain 0) cpu) ∧
      (m.place .cacheDomain task s 1).1 ≠ none ∧
      (m.place .cacheDomain task s 1).2.counters.get .domainCross = 0 := by
  intro m task s
  have hu : m.host.Undisturbed := Host.undisturbed_of_lost_eq_empty rfl
  have hprev : 1 < m.topology.nrCpus := by decide
  obtain ⟨hnone, -, hwants, hcross⟩ := cache_placement_complete m task s 1 hu hprev
  refine ⟨hu, hprev, hwants rfl rfl ⟨0, ⟨_, rfl, rfl⟩, ?_, ?_⟩, fun h => ?_, hcross ⟨1, rfl, ?_, ?_⟩⟩
  · decide +kernel
  · decide +kernel
  · exact hnone.1 h 1 hprev (by decide +kernel) (by decide +kernel)
  · decide +kernel
  · decide +kernel

end CoreSteer.Machine
