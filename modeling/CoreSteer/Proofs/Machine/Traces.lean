import CoreSteer.Proofs.Machine.Placing
/-!
# What placing a task leaves behind

Any claim may be lost to somebody else, and a lost claim sends a search on to its next look, and a
placement on to its next stage.  Nothing is counted or reported on the way: a search without success
leaves everything as it was but for the claims that are still to be lost (`Machine.losing`), and one
with success takes a core and counts it once (`Machine.claimed`).  So however many claims were lost,
a placement leaves the trace of one stage, that of the stage that found the core.
-/
namespace CoreSteer

/-! ## Lost claims -/

/-- A claim is lost, or it takes an idle core. -/
lemma Host.claim_cases (h : Host) (cpu : Nat) :
    (∃ lost, h.claim cpu = (false, { h with lost := lost })) ∨
      cpu ∈ h.idle ∧ h.claim cpu = (true, { h with idle := h.idle.clear cpu }) := by
  unfold claim
  split
  · next n _ => exact .inl ⟨h.lost.insert cpu n, rfl⟩
  · by_cases hidle : cpu ∈ h.idle
    · exact .inr ⟨hidle, if_pos hidle⟩
    · exact .inl ⟨h.lost, if_neg hidle⟩

namespace Machine

variable {m : Machine} {task : Task} {s : TaskState}

/-- The machine with other claims that are still to be lost. -/
def losing (m : Machine) (lost : Std.ExtTreeMap Nat Nat) : Machine :=
  { m with host := { m.host with lost := lost } }

@[simp] lemma losing_self (m : Machine) : m.losing m.host.lost = m := rfl

lemma look_cases (m : Machine) (set : CoreSet) (pool : CpuMask) (whole : Bool) :
    (∃ lost, m.look set pool whole = (none, m.losing lost)) ∨
      ∃ cpu ∈ pool, cpu ∈ m.host.idle ∧
        m.look set pool whole = (some cpu, m.claimed set cpu whole) := by
  rcases hbest : m.bestOf? set pool with _ | c
  · left
    exact ⟨m.host.lost, by simp [look, hbest]⟩
  · obtain ⟨hself, hmem, -⟩ := best_of_bestOf? hbest
    rcases m.host.claim_cases c.cpu with ⟨lost, hclaim⟩ | ⟨hidle, hclaim⟩
    · left
      exact ⟨lost, by simp [look, hbest, hclaim, losing]⟩
    · right
      refine ⟨c.cpu, hmem, hidle, ?_⟩
      have hrank : c.rank = BoostRanking.rank m.hints.boost c.cpu := congrArg Candidate.rank hself
      simp only [look, hbest, hclaim, if_true, countClaim_eq, hrank]
      rfl

/-- A search without success changes nothing but the claims that are still to be lost, and one with
success takes a free core and is counted, whatever claims were lost before. -/
lemma pickIdle_cases (m : Machine) (task : Task) (set : CoreSet) (whole : Bool) :
    (∃ lost, m.pickIdle task set whole = (none, m.losing lost)) ∨
      ∃ cpu first lost, m.Free task set cpu ∧
        m.pickIdle task set whole = (some cpu, (m.losing lost).claimed set cpu first) := by
  rcases hcores : m.topology.coreSet? set with _ | cores
  · left
    exact ⟨m.host.lost, by simp [pickIdle, hcores]⟩
  -- the look at all idle cores, whatever was lost in the look before
  have hsecond : ∀ lost,
      (∃ lost', (m.losing lost).look set (cores ∩ task.allowed ∩ m.host.idle) false =
        (none, m.losing lost')) ∨
      ∃ cpu first lost', m.Free task set cpu ∧
        (m.losing lost).look set (cores ∩ task.allowed ∩ m.host.idle) false =
          (some cpu, (m.losing lost').claimed set cpu first) := by
    intro lost
    rcases (m.losing lost).look_cases set (cores ∩ task.allowed ∩ m.host.idle) false with
      ⟨lost', hlook⟩ | ⟨cpu, hcpu, -, hlook⟩
    · exact .inl ⟨lost', hlook⟩
    · exact .inr ⟨cpu, false, lost, (free_iff hcores).2 hcpu, hlook⟩
  by_cases hasked : (whole && m.prefersWhole) = true
  · rcases m.look_cases set (cores ∩ task.allowed ∩ m.host.idleWhole) true with
      ⟨lost, hlook⟩ | ⟨cpu, hcpu, hidle, hlook⟩
    · have hpick : m.pickIdle task set whole =
          (m.losing lost).look set (cores ∩ task.allowed ∩ m.host.idle) false := by
        simp [pickIdle, hcores, hasked, hlook, losing]
      rw [hpick]
      exact hsecond lost
    · right
      refine ⟨cpu, true, m.host.lost, (free_iff hcores).2 ?_, ?_⟩
      · exact CpuMask.mem_inter.2 ⟨(CpuMask.mem_inter.1 hcpu).1, hidle⟩
      · simp [pickIdle, hcores, hasked, hlook]
  · have hpick : m.pickIdle task set whole =
        m.look set (cores ∩ task.allowed ∩ m.host.idle) false := by
      simp [pickIdle, hcores, hasked]
    rw [hpick]
    exact hsecond m.host.lost

/-- A placement without success changes nothing but the claims that are still to be lost, and one
with success leaves the trace of one of its stages. -/
lemma runStages_cases (m : Machine) (task : Task) (s : TaskState) (stages : List Stage) :
    (∃ lost, m.runStages task s stages = (none, m.losing lost)) ∨
      ∃ g ∈ stages, ∃ cpu first lost, m.Free task g.set cpu ∧
        m.runStages task s stages = (some cpu,
          ((m.losing lost).claimed g.set cpu first).creditPlacement task s cpu g.credit) := by
  induction stages generalizing m with
  | nil => exact .inl ⟨m.host.lost, rfl⟩
  | cons g stages ih =>
    rcases m.pickIdle_cases task g.set g.whole with ⟨lost, hpick⟩ | ⟨cpu, first, lost, hfree, hpick⟩
    · have hrun : m.runStages task s (g :: stages) = (m.losing lost).runStages task s stages := by
        rw [runStages, hpick]
      rw [hrun]
      rcases ih (m.losing lost) with ⟨lost', hrest⟩ | ⟨g', hg', cpu, first, lost', hfree, hrest⟩
      · exact .inl ⟨lost', hrest⟩
      · exact .inr ⟨g', List.mem_cons_of_mem g hg', cpu, first, lost', hfree, hrest⟩
    · right
      refine ⟨g, List.mem_cons_self, cpu, first, lost, hfree, ?_⟩
      rw [runStages, hpick]

end Machine

/-! ## What is counted -/

/-- Count one more in a counter, if there is one to count in. -/
def Counters.bump? (c : Counters) : Option Counter → Counters
  | none => c
  | some k => c.bump k

/-- The counter in which a placement so credited counts. -/
def Credit.counter? : Credit → Option Counter
  | .quiet => none
  | .counter k => some k
  | .migration _ => some .lowLatencyMigrations

namespace Machine

variable {m : Machine} {task : Task} {s : TaskState}

lemma counters_creditPlacement (m : Machine) (task : Task) (s : TaskState) (cpu : Nat)
    (credit : Credit) :
    (m.creditPlacement task s cpu credit).counters = m.counters.bump? credit.counter? := by
  cases credit <;> rfl

/-- A machine shows the trace of one placement: one counter, if any, that says for what a task was
placed where it is, and at most one each that the core was wholly idle and that it was ranked. -/
def Traced (m : Machine) (credited : Option Counter) (n : Machine) : Prop :=
  ∃ whole ranked : Bool, n.counters =
    ((m.counters.bumpIf whole .smtIdlePicks).bumpIf ranked .prefcorePlacements).bump? credited

lemma traced_creditPlacement (m : Machine) (task : Task) (s : TaskState) (cpu : Nat)
    (credit : Credit) (lost : Std.ExtTreeMap Nat Nat) (d : Nat) (first : Bool) :
    m.Traced credit.counter?
      (((m.losing lost).claimed (.domain d) cpu first).creditPlacement task s cpu credit) :=
  ⟨first, _, counters_creditPlacement _ _ _ _ _⟩

/-- Where all stages are counted, a placement counts once for what it was made and reports
nothing. -/
lemma runStages_of_counted (m : Machine) (task : Task) (s : TaskState) {stages : List Stage}
    (h : ∀ g ∈ stages, g.Counted) :
    (∃ lost, m.runStages task s stages = (none, m.losing lost)) ∨
      ∃ cpu n k, m.runStages task s stages = (some cpu, n) ∧ CounterSet.destination k = true ∧
        m.Traced (some k) n ∧ n.events = m.events := by
  rcases m.runStages_cases task s stages with hnone | ⟨g, hg, cpu, first, lost, -, hrun⟩
  · exact .inl hnone
  · obtain ⟨d, whole, k, hk, rfl⟩ := h g hg
    exact .inr ⟨cpu, _, k, hrun, hk, m.traced_creditPlacement task s cpu (.counter k) lost d first,
      rfl⟩

lemma mem_of_destination {k : Counter} (h : CounterSet.destination k = true) :
    k ∈ [Counter.freqDomainPlacements, .lowLatencyMigrations, .compactionOverflows, .domainLocal,
      .domainCross] := by
  cases k <;> first | decide | cases h

/-- Either the search of the low-latency domain finds a core for a task that wants it, or the task is
left to stages that are all counted. -/
lemma place_cacheDomain_cases {prev d : Nat} (hd : m.topology.domainOf? prev = some d) :
    (∃ cpu first lost, (s.flags.wantsLowLatency = true ∧ m.tunables.load.workMode = false ∧
        (m.pickIdle task (.domain m.topology.lowLatencyDomain) true).1 = some cpu) ∧
      m.place .cacheDomain task s prev = (some cpu,
        ((m.losing lost).claimed (.domain m.topology.lowLatencyDomain) cpu first).creditPlacement
          task s cpu (m.migrationCredit d))) ∨
    ∃ lost rest, (∀ g ∈ rest, Stage.Counted g) ∧
      (∀ cpu, ¬(s.flags.wantsLowLatency = true ∧ m.tunables.load.workMode = false ∧
        (m.pickIdle task (.domain m.topology.lowLatencyDomain) true).1 = some cpu)) ∧
      m.place .cacheDomain task s prev = (m.losing lost).runStages task s rest := by
  obtain ⟨rest, hrest, hstages⟩ := m.exists_counted_cacheStages s d
  rw [place_cacheDomain hd, hstages]
  by_cases hwants : (s.flags.wantsLowLatency && !m.tunables.load.workMode) = true
  · have hcond : s.flags.wantsLowLatency = true ∧ m.tunables.load.workMode = false := by
      simpa using hwants
    rw [if_pos hwants, List.singleton_append, runStages]
    rcases m.pickIdle_cases task (.domain m.topology.lowLatencyDomain) true with
      ⟨lost, hpick⟩ | ⟨cpu, first, lost, -, hpick⟩
    · right
      refine ⟨lost, rest, hrest, ?_, by rw [hpick]⟩
      rintro cpu ⟨-, -, hfound⟩
      rw [hpick] at hfound
      cases hfound
    · left
      exact ⟨cpu, first, lost, ⟨hcond.1, hcond.2, by rw [hpick]⟩, by rw [hpick]⟩
  · right
    refine ⟨m.host.lost, rest, hrest, ?_, by rw [if_neg hwants]; rfl⟩
    rintro cpu ⟨hw, hm, -⟩
    exact hwants (by simp [hw, hm])

/-- Placing a task on a machine with cache domains is counted once, whatever claims are lost.  A
placement that finds no core counts and reports nothing.  One that finds a core counts once for
what it was made, unless a task that wants low latency is given, outside work mode and by the search
for that, a core of the low-latency domain in which it was before; then it does not count for that.
It counts at most once that the core was wholly idle, at most once that it was ranked, and nothing
else.  It reports a move exactly if it counts one. -/
theorem placements_counted_once (m : Machine) (task : Task) (s : TaskState) (prev : Nat)
    (hprev : prev < m.topology.nrCpus) :
    ∃ d, m.topology.domainOf? prev = some d ∧
      ((m.place .cacheDomain task s prev).1 = none →
        (m.place .cacheDomain task s prev).2.counters = m.counters ∧
          (m.place .cacheDomain task s prev).2.events = m.events) ∧
      ∀ cpu, (m.place .cacheDomain task s prev).1 = some cpu →
        ∃ (whole ranked : Bool) (credited : Option Counter),
          (m.place .cacheDomain task s prev).2.counters =
            ((m.counters.bumpIf whole .smtIdlePicks).bumpIf ranked .prefcorePlacements).bump?
              credited ∧
          (∀ k, credited = some k → k ∈ [Counter.freqDomainPlacements, .lowLatencyMigrations,
            .compactionOverflows, .domainLocal, .domainCross]) ∧
          (credited = none ↔ s.flags.wantsLowLatency = true ∧ m.tunables.load.workMode = false ∧
            d = m.topology.lowLatencyDomain ∧
            (m.pickIdle task (.domain m.topology.lowLatencyDomain) true).1 = some cpu) ∧
          (m.place .cacheDomain task s prev).2.events =
            if credited = some .lowLatencyMigrations then
              m.events.emit (m.migrationEvent task s cpu d)
            else m.events := by
  obtain ⟨d, hd⟩ := Topology.exists_domainOf?_eq hprev
  refine ⟨d, hd, ?_⟩
  rcases m.place_cacheDomain_cases hd with
    ⟨cpu, first, lost, hlow, hplace⟩ | ⟨lost, rest, hrest, hlow, hplace⟩
  · obtain ⟨hwants, hwork, hfound⟩ := hlow
    have htrace := m.traced_creditPlacement task s cpu (m.migrationCredit d) lost
      m.topology.lowLatencyDomain first
    rw [hplace]
    refine ⟨by simp, ?_⟩
    rintro _ ⟨⟩
    by_cases hsame : d = m.topology.lowLatencyDomain
    · -- the task is in its domain already
      rw [migrationCredit, if_pos hsame] at htrace ⊢
      obtain ⟨whole, ranked, hcounters⟩ := htrace
      exact ⟨whole, ranked, none, hcounters, by simp, by simp [hwants, hwork, hsame, hfound], rfl⟩
    · rw [migrationCredit, if_neg hsame] at htrace ⊢
      obtain ⟨whole, ranked, hcounters⟩ := htrace
      exact ⟨whole, ranked, some .lowLatencyMigrations, hcounters, by simp, by simp [hsame], rfl⟩
  · rw [hplace]
    rcases (m.losing lost).runStages_of_counted task s hrest with
      ⟨lost', hrun⟩ | ⟨cpu, n, k, hrun, hk, ⟨whole, ranked, hcounters⟩, hevents⟩
    · rw [hrun]
      exact ⟨fun _ => ⟨rfl, rfl⟩, by simp⟩
    · rw [hrun]
      refine ⟨by simp, ?_⟩
      rintro _ ⟨⟩
      refine ⟨whole, ranked, some k, hcounters, ?_, ?_, ?_⟩
      · rintro _ ⟨⟩
        exact mem_of_destination hk
      · refine iff_of_false (by simp) ?_
        rintro ⟨hw, hm, -, hfound⟩
        exact hlow cpu ⟨hw, hm, hfound⟩
      · have hne : some k ≠ some Counter.lowLatencyMigrations := by
          rintro ⟨⟩
          cases hk
        rw [if_neg hne]
        exact hevents

/-- Two domains with idle cores, where somebody else is to win the next claim of the first core. -/
def onContestedCore : Machine :=
  .make .twoDomains {} none {} { Host.ofTopology .twoDomains with
    lost := (∅ : Std.ExtTreeMap Nat Nat).insert 0 1 }

/-- A task that wants low latency stays where it is, since the claim of the core that it wants is
lost; this is counted once. -/
theorem placements_counted_once_onContestedCore :
    let task : Task := { pid := 1, tgid := 1, name := .ofString "render", allowed := .firstN 2 }
    let s : TaskState := { flags := { wantsLowLatency := true } }
    1 < onContestedCore.topology.nrCpus ∧
      (onContestedCore.place .cacheDomain task s 1).1 = some 1 ∧
      (onContestedCore.place .cacheDomain task s 1).2.counters.get .domainLocal = 1 ∧
      ∃ whole ranked k, (onContestedCore.place .cacheDomain task s 1).2.counters =
        ((onContestedCore.counters.bumpIf whole .smtIdlePicks).bumpIf ranked
          .prefcorePlacements).bump k := by
  intro task s
  have hprev : 1 < onContestedCore.topology.nrCpus := by decide
  have hplace : (onContestedCore.place .cacheDomain task s 1).1 = some 1 := by decide +kernel
  have hlost : (onContestedCore.pickIdle task (.domain 0) true).1 = none := by decide +kernel
  obtain ⟨d, -, -, hsome⟩ := placements_counted_once onContestedCore task s 1 hprev
  obtain ⟨whole, ranked, credited, hcounters, -, hquiet, -⟩ := hsome 1 hplace
  refine ⟨hprev, hplace, by decide +kernel, whole, ranked, ?_⟩
  cases credited with
  | none => exact absurd (hlost.symm.trans (hquiet.1 rfl).2.2.2) (by simp)
  | some k => exact ⟨k, hcounters⟩

end Machine

end CoreSteer
