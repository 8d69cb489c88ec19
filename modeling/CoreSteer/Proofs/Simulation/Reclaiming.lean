import CoreSteer.Proofs.Simulation.Replacements
/-!
# Nobody is remembered who is gone

The engine comes to track a task when it wakes up or has to wait, and forgets it only when it is told
that the task is gone.  A simulation tells it so before it takes a thread away.  What is still on the
agenda for that thread comes to nothing, because a simulation looks among its threads first, and it
calls the engine for each of them under the id under which it found it.  So the engine never tracks
anybody but threads, however many of them come and go, and whatever ids they come to have.
-/
namespace CoreSteer.Simulation

variable {ρ : Type} {s s' : Simulation ρ} {pid : Nat} {t : Thread}

/-- The engine tracks nobody but threads. -/
structure Tidy (s : Simulation ρ) : Prop where
  /-- The table of tracked tasks is in order. -/
  sound : s.engine.tasks.Sound
  /-- The engine knows each thread by its id. -/
  named : ∀ (p : Nat) (t : Thread), s.threads[p]? = some t → t.task.pid = p
  /-- Whoever is tracked is a thread. -/
  tracked : ∀ p, (s.engine.task? p).isSome → p ∈ s.threads

namespace Tidy

/-! ## What happens -/

/-- A change of anything but the threads and the tracked tasks. -/
lemma of_eq (h : s.Tidy) (ht : s'.threads = s.threads) (he : s'.engine.tasks = s.engine.tasks) :
    s'.Tidy where
  sound := he ▸ h.sound
  named p t hp := h.named p t (ht ▸ hp)
  tracked p hp := by
    rw [Engine.task?, he] at hp
    rw [ht]
    exact h.tracked p hp

/-- Something happens to the engine; if it comes to track somebody by that, then a thread. -/
lemma call (h : s.Tidy) (c : EngineCall) (hc : ∀ p, c.tracks? = some p → s.Knows p) :
    { s with engine := s.engine.after c }.Tidy where
  sound := Engine.sound_after h.sound c
  named := h.named
  tracked p hp := by
    rcases Engine.tracked_of_after h.sound hp with hold | hnew
    · exact h.tracked p hold
    · obtain ⟨q, t, ht, rfl⟩ := hc p hnew
      rw [h.named q t ht]
      exact mem_threads_of_eq_some ht

lemma putThread (h : s.Tidy) (hpid : t.task.pid = pid) : (s.putThread pid t).Tidy where
  sound := h.sound
  named p u hu := by
    rw [threads_putThread] at hu
    split at hu
    · next hp =>
      cases hu
      exact hpid.trans hp.symm
    · exact h.named p u hu
  tracked p hp := (mem_threads_putThread s pid p t).2 (.inr (h.tracked p hp))

variable [Random.DrawSource ρ]

lemma deed (h : s.Tidy) (hd : s.Deed s') : s'.Tidy := by
  cases hd with
  | call c hc => exact h.call c hc
  | write ht hgo => exact h.putThread (hgo.pid.trans (h.named _ _ ht))
  | core | plan | urge | draw | shelve | count => exact h.of_eq rfl rfl

lemma spawn (h : s.Tidy) (spec : ThreadSpec) : (s.spawn spec).Tidy := by
  obtain ⟨t, -, hpid, -, -, -, heq⟩ := s.spawn_eq spec
  have hknown : ({ s.onEngine (·.onHost (·.addProcess spec.pid spec.parent spec.name)) with
      rng := (Random.DrawSource.draw64 0 longestDelay s.rng).2 }).Tidy := h.of_eq rfl rfl
  rw [heq]
  exact (hknown.putThread hpid).of_eq rfl rfl

/-- A thread that goes is forgotten first, so that whoever is tracked then is another one. -/
lemma replace (h : s.Tidy) (pid : Nat) (t : Thread) : (s.replace pid t).Tidy := by
  rw [replace_eq]
  refine Tidy.spawn ⟨?_, fun p u hu => ?_, fun p hp => ?_⟩ _
  · exact Engine.sound_after h.sound (.taskExit pid)
  · have hu : (s.threads.erase pid)[p]? = some u := hu
    rw [threads_erase] at hu
    split at hu
    · cases hu
    · exact h.named p u hu
  · have hp : ((s.engine.taskExit pid).task? p).isSome := hp
    refine (mem_threads_erase s pid p).2 ⟨?_, ?_⟩
    · -- the engine was told before the thread is taken away
      rintro rfl
      rw [Engine.task?_taskExit_self h.sound] at hp
      cases hp
    · rcases Engine.tracked_of_after (c := .taskExit pid) h.sound hp with hold | hnew
      · exact h.tracked p hold
      · cases hnew

/-- Whatever falls due, the engine tracks nobody but threads after it. -/
lemma step {limit : Nat} (h : s.Tidy) (hs : s.step? limit = some s') : s'.Tidy := by
  obtain ⟨a, rest, -, rfl⟩ := step?_eq_some_iff.1 hs
  have hcome : (s.comeTo a rest).Tidy := h.of_eq rfl rfl
  exact (s.happens_keep a rest).preserves (fun _ _ hd hs => hs.deed hd)
    (fun _ pid t _ hs => hs.replace pid t) hcome

/-! ## Runs -/

/-- At the start nobody is tracked. -/
lemma start {e : Engine} (h : e.tasks.Sound) (hnone : ∀ p, e.task? p = none) (sc : Scenario)
    (rng : ρ) : (start e sc rng).Tidy := by
  have hempty : ({
      engine := e.onMachine fun m => { m with
        host := sc.processes.foldl (fun h p => h.addProcess p.1 p.2.1 p.2.2) e.host
        hints := withHintsOf m.hints sc }
      rng := rng
      now := (sc.processes.foldl (fun h p => h.addProcess p.1 p.2.1 p.2.2) e.host).now
      cores := Array.replicate e.topology.nrCpus {} } : Simulation ρ).Tidy := by
    refine ⟨h, fun p t ht => ?_, fun p hp => ?_⟩
    · simp at ht
    · have hp : (e.task? p).isSome := hp
      rw [hnone] at hp
      cases hp
  have hall := List.foldlRecOn (motive := Tidy) sc.threads Simulation.spawn hempty
    fun _ hs spec _ => hs.spawn spec
  exact hall.of_eq rfl rfl

lemma visits {s₀ : Simulation ρ} {last n : Nat} (h : s₀.Tidy) (hv : Visits s₀ last n s) :
    s.Tidy := by
  induction hv with
  | start => exact h
  | event _ _ hs ih => exact ih.step hs
  | rest _ _ _ ih => exact ih.of_eq rfl rfl
  | edit _ _ _ ih => exact ih.of_eq rfl rfl

omit [Random.DrawSource ρ] in
/-- There are no more tracked tasks than threads. -/
lemma nrTasks_le (h : s.Tidy) : s.engine.nrTasks ≤ s.nrThreads := by
  have hle := h.sound.count_le s.threads.keys fun p hp =>
    Std.ExtTreeMap.mem_keys.2 (h.tracked p hp)
  exact hle.trans (Nat.le_of_eq Std.ExtTreeMap.length_keys)

end Tidy

variable [Random.DrawSource ρ]

/-- Nobody is remembered who is gone.  On any machine, whatever the settings, the size of the table of
tracked tasks, the hints, the profiles and the draws are, and however often threads make room for
others, the engine tracks nobody but threads whenever something has happened.  So it never tracks more
tasks than there are threads. -/
theorem nobody_gone_is_tracked (t : Topology) (config : EngineConfig) (tunables : TunablesCell)
    (hints : Hints) :
    ∃ e, Engine.start t config tunables hints (.ofTopology t) = .ok e ∧
      ∀ (sc : Scenario) (rng : ρ) (shelf : Option Shelf) (last n : Nat) (s : Simulation ρ),
        Visits { start e sc rng with shelf := shelf } last n s →
          (∀ pid, (s.engine.task? pid).isSome → pid ∈ s.threads) ∧
          s.engine.nrTasks ≤ s.nrThreads := by
  obtain ⟨queues, -, hstart⟩ := Engine.exists_start t config tunables hints (.ofTopology t)
  refine ⟨_, hstart, fun sc rng shelf last n s hs => ?_⟩
  have h₀ : (start (⟨.make t config tunables hints (.ofTopology t), .ofCapacity config.taskCapacity,
      queues, none⟩ : Engine) sc rng).Tidy := by
    refine .start (TaskTable.sound_ofCapacity _) (fun p => ?_) sc rng
    exact TaskTable.get?_ofCapacity _ p
  have h₁ : { start _ sc rng with shelf := shelf }.Tidy := h₀.of_eq rfl rfl
  have h := h₁.visits hs
  exact ⟨h.tracked, h.nrTasks_le⟩

theorem nobody_gone_is_tracked_shortLived :
    ∃ (s₀ s₁ s₂ : Simulation Random.KeyStream) (m n : Nat),
      s₀ = { start Engine.onTwoDomains shortLived (.ofSeed 0) with shelf := none } ∧
      s₀.runUntil? 25844 = some s₁ ∧ s₁.runUntil? 30000 = some s₂ ∧
      (Visits s₀ 30000 m s₁ ∧ (s₁.engine.task? 1).isSome ∧ 1 ∈ s₁.threads) ∧
      (Visits s₀ 30000 n s₂ ∧ s₂.nextPid = 10001 ∧ (s₂.engine.task? 1).isNone ∧
        s₂.engine.nrTasks ≤ s₂.nrThreads) := by
  obtain ⟨e, hstart, h⟩ := nobody_gone_is_tracked (ρ := Random.KeyStream) .twoDomains
    { taskCapacity := 0 } none {}
  obtain rfl : Engine.onTwoDomains = e :=
    Except.ok.inj (Engine.start_twoDomains.symm.trans hstart)
  -- the compiler wakes up in the first run, and makes room in the second one
  have hruns : (({ start Engine.onTwoDomains shortLived (Random.KeyStream.ofSeed 0) with
      shelf := none } : Simulation Random.KeyStream).runWithin? 25844 5).any fun s₁ =>
        (s₁.engine.task? 1).isSome && (s₁.runWithin? 30000 5).any fun s₂ =>
          s₂.nextPid == 10001 && (s₂.engine.task? 1).isNone := by
    decide +kernel
  simp only [Option.any_eq_true, Bool.and_eq_true, beq_iff_eq] at hruns
  obtain ⟨s₁, hs₁, hknown, s₂, hs₂, hnext, hgone⟩ := hruns
  obtain ⟨hrun₁, k, -, hv₁⟩ := (Visits.start : Visits _ 30000 _ _).runWithin? (by decide) hs₁
  obtain ⟨hrun₂, l, -, hv₂⟩ := hv₁.runWithin? (Nat.le_refl _) hs₂
  obtain ⟨htracked, -⟩ := h shortLived (.ofSeed 0) none 30000 _ s₁ hv₁
  obtain ⟨-, hle⟩ := h shortLived (.ofSeed 0) none 30000 _ s₂ hv₂
  exact ⟨_, s₁, s₂, _, _, rfl, hrun₁, hrun₂, ⟨hv₁, hknown, htracked 1 hknown⟩, hv₂, hnext, hgone,
    hle⟩

end CoreSteer.Simulation
