import CoreSteer.Proofs.Machine.Traces
/-!
# Work that somebody waits for is not offloaded

On a hybrid machine a placement has two stages at most: performance cores for a task that wants low
latency, and efficiency cores for work that the policy `Covers`.  Each core is of one kind, so the
kind of the core that was found tells the stage that found it, and with it why the task was placed
there and in which counter that counts.
-/
namespace CoreSteer

/-- The policy is to move a task to efficiency cores: nobody waits for it, and the policy is for all
such work, or for work of its class. -/
def OffloadPolicy.Covers (p : OffloadPolicy) (s : TaskState) : Prop :=
  s.flags.gaming = false ∧ s.flags.interactive = false ∧
    (p = .aggressive ∨ p = .conservative ∧ (s.workload = .batch ∨ s.workload = .container))

lemma OffloadPolicy.offloads_iff {p : OffloadPolicy} {s : TaskState} :
    p.offloads s = true ↔ p.Covers s := by
  cases p <;> simp [offloads, Covers, and_assoc]

namespace Machine

variable {m : Machine} {task : Task} {s : TaskState}

lemma mem_hybridStages {g : Stage} :
    g ∈ m.hybridStages s ↔
      s.flags.wantsLowLatency = true ∧ g = ⟨.performance, true, .quiet⟩ ∨
        m.config.offload.Covers s ∧ g = ⟨.efficiency, false, .quiet⟩ := by
  simp only [hybridStages, List.mem_append, List.mem_ite_nil_right, List.mem_singleton,
    OffloadPolicy.offloads_iff]

lemma place_hybrid (m : Machine) (task : Task) (s : TaskState) (prev : Nat) :
    m.place .hybrid task s prev = m.runStages task s (m.hybridStages s) := rfl

/-- A claim of a performance core or of an efficiency core counts for the kind of the core. -/
lemma counters_claimed_of_credits {set : CoreSet} (hset : ∀ rank, set.credits rank = true)
    (cpu : Nat) (first : Bool) :
    (m.claimed set cpu first).counters =
      (m.counters.bumpIf first .smtIdlePicks).bump set.counter := by
  simp [claimed, hset, Counters.bumpIf]

/-- Placing a task on a hybrid machine fails, and counts nothing, or finds a core of one of two kinds
for one of two reasons, and counts that. -/
lemma place_hybrid_cases (m : Machine) (task : Task) (s : TaskState) (prev : Nat) :
    (∃ lost, m.place .hybrid task s prev = (none, m.losing lost)) ∨
      ∃ cpu core n whole, m.place .hybrid task s prev = (some cpu, n) ∧
        m.topology.core? cpu = some core ∧
        n.counters = (m.counters.bumpIf whole .smtIdlePicks).bump
          (if core.performance then .pcorePlacements else .ecoreOffloads) ∧
        (core.performance = true ∧ s.flags.wantsLowLatency = true ∨
          core.performance = false ∧ m.config.offload.Covers s) := by
  rw [place_hybrid]
  rcases m.runStages_cases task s (m.hybridStages s) with
    hnone | ⟨g, hg, cpu, first, lost, ⟨⟨core, hcore, hkind⟩, -⟩, hrun⟩
  · exact .inl hnone
  · right
    refine ⟨cpu, core, _, first, hrun, hcore, ?_⟩
    rcases mem_hybridStages.1 hg with ⟨hwants, rfl⟩ | ⟨hcovers, rfl⟩
    · have hperf : core.performance = true := hkind
      rw [hperf]
      exact ⟨counters_claimed_of_credits (fun _ => rfl) cpu first, .inl ⟨rfl, hwants⟩⟩
    · have heff : core.performance = false := by simpa [CoreSet.has] using hkind
      rw [heff]
      exact ⟨counters_claimed_of_credits (fun _ => rfl) cpu first, .inr ⟨rfl, hcovers⟩⟩

/-- If nobody else takes cores, a task that wants low latency is placed on a performance core that
is free, if there is one. -/
lemma exists_place_hybrid_of_free (hu : m.host.Undisturbed)
    (hwants : s.flags.wantsLowLatency = true) {c : Nat} (hc : m.Free task .performance c)
    (prev : Nat) :
    ∃ cpu, (m.place .hybrid task s prev).1 = some cpu ∧ m.Free task .performance cpu := by
  obtain ⟨rest, hstages⟩ : ∃ rest, m.hybridStages s = ⟨.performance, true, .quiet⟩ :: rest := by
    rw [hybridStages, if_pos hwants]
    exact ⟨_, rfl⟩
  obtain ⟨g, hg, cpu, first, hfree, hrun⟩ := exists_runStages_eq hu s [] rest
    (g := ⟨.performance, true, .quiet⟩) hc
  obtain rfl := List.mem_singleton.1 hg
  refine ⟨cpu, ?_, hfree⟩
  rw [place_hybrid, hstages]
  exact congrArg Prod.fst hrun

/-- Work that somebody waits for is not offloaded, whatever claims are lost.  On a hybrid machine a
task is placed on a performance core only if it wants low latency, and on an efficiency core only if
it counts neither as gaming nor as interactive and the policy is to offload it; each placement
counts for the kind of its core, and a placement that fails counts for nothing.  If nobody else takes
cores, a task that wants low latency is placed on a performance core if one is free, and placing a
task that the policy is to offload fails only if no efficiency core is free. -/
theorem awaited_work_is_not_offloaded (m : Machine) (task : Task) (s : TaskState) (prev : Nat) :
    (∀ cpu, (m.place .hybrid task s prev).1 = some cpu →
      ∃ core, m.topology.core? cpu = some core ∧
        (core.performance = true → s.flags.wantsLowLatency = true) ∧
        (core.performance = false → m.config.offload.Covers s) ∧
        ∃ whole, (m.place .hybrid task s prev).2.counters =
          (m.counters.bumpIf whole .smtIdlePicks).bump
            (if core.performance then .pcorePlacements else .ecoreOffloads)) ∧
    ((m.place .hybrid task s prev).1 = none →
      (m.place .hybrid task s prev).2.counters = m.counters) ∧
    (m.host.Undisturbed →
      (s.flags.wantsLowLatency = true → (∃ c, m.Free task .performance c) →
        ∃ cpu, (m.place .hybrid task s prev).1 = some cpu ∧ m.Free task .performance cpu) ∧
      (m.config.offload.Covers s → (m.place .hybrid task s prev).1 = none →
        ∀ c, ¬m.Free task .efficiency c)) := by
  refine ⟨?_, ?_, fun hu => ⟨?_, ?_⟩⟩
  · intro cpu hfound
    rcases m.place_hybrid_cases task s prev with
      ⟨lost, hplace⟩ | ⟨cpu', core, n, whole, hplace, hcore, hcounters, hwhy⟩ <;>
      rw [hplace] at hfound ⊢
    · cases hfound
    · obtain rfl : cpu' = cpu := Option.some.inj hfound
      refine ⟨core, hcore, fun hperf => ?_, fun heff => ?_, whole, hcounters⟩
      · rcases hwhy with ⟨-, hwants⟩ | ⟨heff, -⟩
        · exact hwants
        · simp [hperf] at heff
      · rcases hwhy with ⟨hperf, -⟩ | ⟨-, hcovers⟩
        · simp [hperf] at heff
        · exact hcovers
  · intro hnone
    rcases m.place_hybrid_cases task s prev with
      ⟨lost, hplace⟩ | ⟨cpu, core, n, whole, hplace, -⟩ <;> rw [hplace] at hnone ⊢
    · rfl
    · cases hnone
  · rintro hwants ⟨c, hc⟩
    exact exists_place_hybrid_of_free hu hwants hc prev
  · intro hcovers hnone
    exact (runStages_eq_none_iff hu).1 hnone _ (mem_hybridStages.2 (.inr ⟨hcovers, rfl⟩))

end Machine

/-- A performance core and an efficiency core. -/
def Topology.twoKinds : Topology where
  kind := .hybrid
  cores := #[⟨0, 0, 0, none, true, true, false⟩, ⟨1, 0, 0, none, false, false, false⟩]
  faultless := by decide +kernel

namespace Machine

/-- With both kinds of cores idle, a game is placed on a performance core, and batch work on an
efficiency core. -/
theorem awaited_work_is_not_offloaded_twoKinds :
    let m : Machine := .make .twoKinds {} none {} (.ofTopology .twoKinds)
    let task : Task := { pid := 1, tgid := 1, name := .ofString "render", allowed := .firstN 2 }
    let game : TaskState := { flags := { gaming := true, wantsLowLatency := true } }
    let batch : TaskState := { workload := .batch }
    m.host.Undisturbed ∧ game.flags.wantsLowLatency = true ∧ m.config.offload.Covers batch ∧
      (∃ cpu, (m.place .hybrid task game 0).1 = some cpu ∧ m.Free task .performance cpu) ∧
      (m.place .hybrid task batch 0).1 = some 1 ∧
      ∃ whole, (m.place .hybrid task batch 0).2.counters =
        (m.counters.bumpIf whole .smtIdlePicks).bump .ecoreOffloads := by
  intro m task game batch
  have hu : m.host.Undisturbed := Host.undisturbed_of_lost_eq_empty rfl
  have hcovers : m.config.offload.Covers batch := ⟨rfl, rfl, .inr ⟨rfl, .inl rfl⟩⟩
  obtain ⟨-, -, hundisturbed⟩ := awaited_work_is_not_offloaded m task game 0
  obtain ⟨hfound, -, -⟩ := awaited_work_is_not_offloaded m task batch 0
  have hbatch : (m.place .hybrid task batch 0).1 = some 1 := by decide +kernel
  obtain ⟨core, hcore, -, -, whole, hcounters⟩ := hfound 1 hbatch
  obtain rfl : (⟨1, 0, 0, none, false, false, false⟩ : CoreDesc) = core :=
    Option.some.inj hcore
  refine ⟨hu, rfl, hcovers, (hundisturbed hu).1 rfl ⟨0, ⟨_, rfl, rfl⟩, ?_, ?_⟩, hbatch, whole,
    hcounters⟩
  · decide +kernel
  · decide +kernel

end Machine

end CoreSteer
