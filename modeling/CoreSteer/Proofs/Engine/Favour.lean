import CoreSteer.Proofs.Engine.Enqueueing
import CoreSteer.Proofs.Engine.Tracking
/-!
# When gaming goes out of favour

Whether gaming is favoured is a setting that may change at any time.  It is read when a task wakes
up, and what follows from it for the task is kept in two flags, that the task counts as gaming and
that it wants low latency.  These are what counts when the task is enqueued, however long ago it woke
up and whatever the settings are by then.

So the history to look at is that of `Engine.favour`: whether gaming was favoured when the task last
woke up.  A task that last woke up without favour, or never did, is enqueued like any other task.  One
that was woken up with favour, and only runs and is enqueued since, goes on to be favoured after the
setting has changed (`stale_game_is_favoured`).
-/
namespace CoreSteer.Engine

variable {e : Engine} {pid : Nat} {known : Option Bool} {c : EngineCall}

/-! ## Findings between two wakings -/

/-- A call wakes up a task, and what is known of the task is refreshed. -/
def Refreshes (e : Engine) (pid : Nat) (c : EngineCall) : Prop :=
  ∃ task prev s, c = .selectCpu task prev ∧ task.pid = pid ∧ e.woken? task prev = some s

/-- All that is found out about a task comes from its waking up. -/
lemma findings_of_not_refreshes (h : e.tasks.Sound) (hc : ¬ e.Refreshes pid c) {f : Findings}
    (hf : (e.after c).findings? pid = some f) : e.findings? pid = some f ∨ f = {} := by
  cases learns_after h pid c with
  | kept c hkept => exact .inl (hkept.symm.trans hf)
  | new c _ hnew => exact .inr (Option.some.inj (hf.symm.trans hnew))
  | refreshed task prev s hpid hs => exact absurd ⟨task, prev, s, rfl, hpid, hs⟩ hc
  | forgotten hnone =>
    rw [findings?, hnone] at hf
    cases hf

/-- A task that has just woken up counts as gaming or wants low latency only if gaming is favoured. -/
lemma gamingMode_of_refreshes (h : e.tasks.Sound) (hc : e.Refreshes pid c) {f : Findings}
    (hf : (e.after c).findings? pid = some f)
    (hflags : f.flags.gaming = true ∨ f.flags.wantsLowLatency = true) :
    e.tunables.load.gamingMode = true := by
  obtain ⟨task, prev, s, rfl, rfl, hs⟩ := hc
  rw [findings?, after, task?_selectCpu_of_woken? h hs, Option.map_some] at hf
  obtain rfl := Option.some.inj hf
  obtain ⟨hgaming, -, hwants⟩ := e.toMachine.flags_refresh task s prev
  have hmode : (e.toMachine.refresh task s prev).1.flags.gaming = true →
      e.tunables.load.gamingMode = true := fun hg =>
    (Bool.and_eq_true_iff.1 (hgaming.symm.trans hg)).1
  rcases hflags with hg | hw
  · exact hmode hg
  · -- low latency is wanted for a game, or for an interactive task while gaming is favoured
    rcases Bool.or_eq_true_iff.1 (hwants.symm.trans hw) with hg | hi
    · exact hmode hg
    · exact (Bool.and_eq_true_iff.1 hi).2

/-! ## The history -/

/-- Whether gaming was favoured when a task last woke up, as far as that is `known`, after one more
call; nothing is known of a task that is gone. -/
def noteFavour (e : Engine) (pid : Nat) (known : Option Bool) : EngineCall → Option Bool
  | .selectCpu task prev =>
    if task.pid = pid ∧ (e.woken? task prev).isSome then some e.tunables.load.gamingMode else known
  | .taskExit p => if p = pid then none else known
  | _ => known

/-- Whether gaming was favoured when a task last woke up, after calls in order. -/
def favour (e : Engine) (pid : Nat) (known : Option Bool) : List EngineCall → Option Bool
  | [] => known
  | c :: cs => (e.after c).favour pid (e.noteFavour pid known c) cs

lemma noteFavour_of_refreshes (hc : e.Refreshes pid c) :
    e.noteFavour pid known c = some e.tunables.load.gamingMode := by
  obtain ⟨task, prev, s, rfl, hpid, hs⟩ := hc
  exact if_pos ⟨hpid, by rw [hs]; rfl⟩

lemma noteFavour_of_not_refreshes (hc : ¬ e.Refreshes pid c) (hexit : c ≠ .taskExit pid) :
    e.noteFavour pid known c = known := by
  cases c with
  | selectCpu task prev =>
    refine if_neg fun ⟨hpid, hs⟩ => hc ?_
    obtain ⟨s, hs⟩ := Option.isSome_iff_exists.1 hs
    exact ⟨task, prev, s, rfl, hpid, hs⟩
  | taskExit p => exact if_neg fun hp => hexit (congrArg _ hp)
  | _ => rfl

/-! ## The invariant -/

/-- A task that counts as gaming or wants low latency last woke up while gaming was favoured. -/
structure Recalls (pid : Nat) (known : Option Bool) (e : Engine) : Prop where
  /-- The table of tracked tasks is in order. -/
  sound : e.tasks.Sound
  /-- The task has its flags from that waking. -/
  favoured : ∀ f, e.findings? pid = some f →
    f.flags.gaming = true ∨ f.flags.wantsLowLatency = true → known = some true

namespace Recalls

lemma after (h : Recalls pid known e) (c : EngineCall) :
    Recalls pid (e.noteFavour pid known c) (e.after c) := by
  refine ⟨sound_after h.sound c, fun f hf hflags => ?_⟩
  by_cases hc : e.Refreshes pid c
  · rw [noteFavour_of_refreshes hc, gamingMode_of_refreshes h.sound hc hf hflags]
  · have hstays : c ≠ .taskExit pid := by
      rintro rfl
      rw [findings?, Engine.after, task?_taskExit_self h.sound] at hf
      cases hf
    rw [noteFavour_of_not_refreshes hc hstays]
    rcases findings_of_not_refreshes h.sound hc hf with hold | rfl
    · exact h.favoured f hold hflags
    · -- nothing is known of a task that has just come to be tracked
      rcases hflags with hg | hw
      · cases hg
      · cases hw

lemma afterAll (h : Recalls pid known e) (cs : List EngineCall) :
    Recalls pid (e.favour pid known cs) (e.afterAll cs) := by
  induction cs generalizing e known with
  | nil => exact h
  | cons c cs ih => exact ih (h.after c)

/-- When nothing has happened, no task is tracked. -/
lemma start (pid : Nat) (t : Topology) (config : EngineConfig) (tunables : TunablesCell)
    (hints : Hints) (host : Host) (queues : DispatchQueues) :
    Recalls pid none ⟨.make t config tunables hints host, .ofCapacity config.taskCapacity, queues,
      none⟩ where
  sound := TaskTable.sound_ofCapacity _
  favoured f hf := by
    rw [findings?, task?, TaskTable.get?_ofCapacity] at hf
    cases hf

/-- A task that did not last wake up with favour comes to the queues with neither flag. -/
lemma flags_of_comesWith {task : Task} (h : Recalls task.pid known e) (hknown : known ≠ some true)
    {s : TaskState} (hs : e.comesWith task = some s) :
    s.flags.gaming = false ∧ s.flags.wantsLowLatency = false := by
  rcases e.comesWith_eq task h.sound with hold | ⟨-, hnew⟩
  · have hf : e.findings? task.pid = some s.findings := by
      rw [findings?, ← hold, hs, Option.map_some]
    exact ⟨Bool.eq_false_iff.2 fun hg => hknown (h.favoured _ hf (.inl hg)),
      Bool.eq_false_iff.2 fun hw => hknown (h.favoured _ hf (.inr hw))⟩
  · obtain rfl : {} = s := Option.some.inj (hnew.symm.trans hs)
    exact ⟨rfl, rfl⟩

end Recalls

/-! ## Runs -/

/-- Out of favour from the next waking on.  From the start of an engine on, whatever happens to it and
in whatever order, a task that last woke up while gaming was not favoured, or has not woken up since it
came to be tracked, is enqueued like any other task: nobody is kicked for it, it is not counted as
gaming, and it waits in the queue of the domain of its core. -/
theorem out_of_favour_from_waking_on (t : Topology) (config : EngineConfig) (tunables : TunablesCell)
    (hints : Hints) (host : Host) :
    ∃ e₀, start t config tunables hints host = .ok e₀ ∧
      ∀ calls e, e₀.afterAll calls = e →
        ∀ task, e₀.favour task.pid none calls ≠ some true →
          (e.enqueue task).host.kicks = e.host.kicks ∧
          (e.enqueue task).counters.get .preemptKicks = e.counters.get .preemptKicks ∧
          (e.enqueue task).counters.get .gamingEnqueued = e.counters.get .gamingEnqueued ∧
          ∃ key, (e.enqueue task).queues =
            e.queues.insert (e.plainQueue task) task.pid e.tunables.load.slice key := by
  obtain ⟨queues, -, hstart⟩ := exists_start t config tunables hints host
  refine ⟨_, hstart, fun calls e he task hknown => ?_⟩
  have h := (Recalls.start task.pid t config tunables hints host queues).afterAll calls
  rw [he] at h
  have hgaming : TaskState.isGaming (e.comesWith task) = false := by
    rcases hs : e.comesWith task with _ | s
    · rfl
    · exact (h.flags_of_comesWith hknown hs).1
  have hqueue : e.queueOf task = e.plainQueue task := by
    unfold queueOf
    split
    · rfl
    · next s hs => exact e.toMachine.queueFor_eq_plainQueue task (h.flags_of_comesWith hknown hs).2
  have hcounter : ∀ k ≠ .enqueued, k ≠ .interactiveEnqueued →
      (e.enqueue task).counters.get k = e.counters.get k := fun k hk hk' =>
    e.get_counters_enqueue_of_not_gaming task hgaming hk hk'
  refine ⟨by rw [(e.enqueue_of_not_gaming task hgaming).1], hcounter _ (by decide) (by decide),
    hcounter _ (by decide) (by decide), e.keyFor task, hqueue ▸ e.queues_enqueue_eq task⟩

/-- A game. -/
def sideGame : Task := { player 5 "wine64" with cpu := 1 }

/-- A game wakes up and runs in the domain where latency is not low, beside a compiler in the other
one; gaming goes out of favour, and the game has to give way. -/
def staleGame : List EngineCall :=
  [.platform { Host.ofTopology .twoDomains with idle := .empty }, .selectCpu sideGame 1,
    .running sideGame, .running (player 3 "make"), .settings (some { gamingMode := false }),
    .stopping sideGame true]

/-- The game that waits again kicks the compiler, is counted as gaming, and does not wait in the queue
of its own domain. -/
theorem stale_game_is_favoured :
    start .twoDomains { taskCapacity := 0 } none {} (.ofTopology .twoDomains) = .ok onTwoDomains ∧
      (onTwoDomains.afterAll staleGame).tunables.load.gamingMode = false ∧
      ((onTwoDomains.afterAll staleGame).host.kicks.size = 0 ∧
        ((onTwoDomains.afterAll staleGame).enqueue sideGame).host.kicks.toList =
          [⟨0, { preempt := true }⟩]) ∧
      ((onTwoDomains.afterAll staleGame).counters.get .gamingEnqueued = 0 ∧
        ((onTwoDomains.afterAll staleGame).enqueue sideGame).counters.get .gamingEnqueued = 1) ∧
      (onTwoDomains.afterAll staleGame).plainQueue sideGame = .domain 1 ∧
      (((onTwoDomains.afterAll staleGame).enqueue sideGame).queued (.domain 0) = 1 ∧
        ((onTwoDomains.afterAll staleGame).enqueue sideGame).queued (.domain 1) = 0) :=
  ⟨start_twoDomains, by decide +kernel⟩

theorem out_of_favour_from_waking_on_wokenGame :
    onTwoDomains.favour 5 none (staleGame ++ [.selectCpu sideGame 1]) = some false ∧
      ∃ e, onTwoDomains.afterAll (staleGame ++ [.selectCpu sideGame 1]) = e ∧
        (∃ s, e.task? 5 = some s ∧ s.flags.classGaming = true) ∧
        (e.enqueue sideGame).host.kicks.size = 0 ∧
        (e.enqueue sideGame).counters.get .gamingEnqueued = 0 ∧
        ∃ key, (e.enqueue sideGame).queues = e.queues.insert (.domain 1) 5 3000000 key := by
  obtain ⟨e₀, hstart, h⟩ := out_of_favour_from_waking_on .twoDomains { taskCapacity := 0 } none {}
    (.ofTopology .twoDomains)
  obtain rfl : onTwoDomains = e₀ := Except.ok.inj (start_twoDomains.symm.trans hstart)
  have hfavour : onTwoDomains.favour 5 none (staleGame ++ [.selectCpu sideGame 1]) = some false := by
    decide +kernel
  obtain ⟨hkicks, -, hgaming, key, hqueues⟩ := h (staleGame ++ [.selectCpu sideGame 1]) _ rfl sideGame
    (by rw [show sideGame.pid = 5 from rfl, hfavour]; decide)
  obtain ⟨hclass, hkicked, hcounted, hqueue, hslice⟩ :
      ((onTwoDomains.afterAll (staleGame ++ [.selectCpu sideGame 1])).task? 5).map
          (·.flags.classGaming) = some true ∧
        (onTwoDomains.afterAll (staleGame ++ [.selectCpu sideGame 1])).host.kicks.size = 0 ∧
        (onTwoDomains.afterAll (staleGame ++ [.selectCpu sideGame 1])).counters.get
          .gamingEnqueued = 0 ∧
        (onTwoDomains.afterAll (staleGame ++ [.selectCpu sideGame 1])).plainQueue sideGame =
          .domain 1 ∧
        (onTwoDomains.afterAll (staleGame ++ [.selectCpu sideGame 1])).tunables.load.slice =
          3000000 := by
    decide +kernel
  rw [hqueue, hslice] at hqueues
  exact ⟨hfavour, _, rfl, Option.map_eq_some_iff.1 hclass, hkicks ▸ hkicked, hgaming.trans hcounted,
    key, hqueues⟩

end CoreSteer.Engine
