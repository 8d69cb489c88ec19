import CoreSteer.Proofs.Engine.Observers
import CoreSteer.Proofs.Machine.IdleSearch
/-!
# What a call counts

Counters are written and never read: what a call adds to them does not depend on what they show.
So `Engine.gain`, which is what an engine that has counted nothing shows after the call, is what
the call adds to a counter.  Since no call adds much, a counter wraps around only where the gains
of a run come to more than a machine word can hold.

Times are left aside: of them, sums and extremes are kept, not numbers of events.
-/
namespace CoreSteer

namespace Counters

/-- Count one more in each counter of a list. -/
def bumpAll (c : Counters) (ks : List Counter) : Counters := ks.foldl bump c

lemma bumpAll_append (c : Counters) (as bs : List Counter) :
    c.bumpAll (as ++ bs) = (c.bumpAll as).bumpAll bs := List.foldl_append

lemma get_bumpAll {c : Counters} {k : Counter} {a : Nat} (h : c.get k = wrap64 a)
    (ks : List Counter) : (c.bumpAll ks).get k = wrap64 (a + ks.count k) := by
  induction ks generalizing c a with
  | nil => exact h
  | cons j ks ih =>
    rw [List.count_cons]
    by_cases hj : j = k
    · subst hj
      have hbump : (c.bump j).get j = wrap64 (a + 1) := by
        rw [get_bump_self, h, wrap64_wrap64_add]
      rw [if_pos (beq_self_eq_true j), Nat.add_comm (ks.count j), ← Nat.add_assoc]
      exact ih hbump
    · rw [if_neg (by simpa using hj)]
      exact ih ((get_bump_of_ne c (Ne.symm hj)).trans h)

/-- What is done to counters is to count at most `n` times, whatever they show. -/
def Adds (n : Nat) (f : Counters → Counters) : Prop :=
  ∃ ks : List Counter, ks.length ≤ n ∧ ∀ c, f c = c.bumpAll ks

namespace Adds

variable {n n' : Nat} {f g : Counters → Counters}

lemma nothing : Adds 0 fun c => c := ⟨[], Nat.le_refl 0, fun _ => rfl⟩

lemma bump (k : Counter) : Adds 1 (·.bump k) := ⟨[k], Nat.le_refl 1, fun _ => rfl⟩

lemma mono (h : Adds n f) (hn : n ≤ n') : Adds n' f :=
  h.imp fun _ hks => hks.imp_left (Nat.le_trans · hn)

lemma bumpIf (b : Bool) (k : Counter) : Adds 1 (·.bumpIf b k) := by
  cases b with
  | false => exact nothing.mono (Nat.zero_le 1)
  | true => exact bump k

lemma comp (h : Adds n f) (h' : Adds n' g) : Adds (n + n') fun c => g (f c) := by
  obtain ⟨as, has, hf⟩ := h
  obtain ⟨bs, hbs, hg⟩ := h'
  refine ⟨as ++ bs, ?_, fun c => ?_⟩
  · rw [List.length_append]
    exact Nat.add_le_add has hbs
  · rw [bumpAll_append, ← hf, ← hg]

/-! ### The sources of a classification -/

lemma countCgroup (o : Option WorkloadClass) : Adds 2 (·.countCgroup o) := by
  cases o with
  | none => exact nothing.mono (Nat.zero_le 2)
  | some k => exact (bump .cgroupClassifications).comp (bumpIf (k == .gaming) .cgroupGaming)

lemma countContainer (o : Option WorkloadClass) : Adds 2 (·.countContainer o) := by
  cases o with
  | none => exact nothing.mono (Nat.zero_le 2)
  | some k => exact (bump .containerTasks).comp (bumpIf (k == .ai) .aiContainerTasks)

lemma countVm (o : Option WorkloadClass) : Adds 2 (·.countVm o) := by
  unfold Counters.countVm
  split
  · exact nothing.mono (Nat.zero_le 2)
  · exact (bump .vmVcpuTasks).comp (bump .gamingVmVcpus)
  · exact (bump .vmVcpuTasks).comp (bump .devVmVcpus)
  · exact (bump .vmVcpuTasks).mono (Nat.le_succ 1)

lemma fallbackClass (h : Hints) (task : Task) :
    Adds 4 fun c => (CoreSteer.fallbackClass h task c).2 := by
  unfold CoreSteer.fallbackClass
  split
  · exact nothing.mono (Nat.zero_le 4)
  · dsimp only
    split
    · exact (countContainer _).mono (by decide)
    · exact (countContainer _).comp (countCgroup _)

lemma cascade (h : Hints) (host : Host) (task : Task) :
    Adds 9 fun c => (CoreSteer.cascade h host task c).2 := by
  have hfeeder := bumpIf task.name.isGpuFeeder .gpuFeederTasks
  have hcgroup := hfeeder.comp (countCgroup (h.cgroupOf? task))
  have hvm := hcgroup.comp (countVm h.vmVcpus[task.pid]?)
  unfold CoreSteer.cascade
  dsimp only
  split
  · exact hfeeder.mono (by decide)
  · split
    · exact (hfeeder.comp (bump .hintDetects)).mono (by decide)
    · split
      · exact hcgroup.mono (by decide)
      · split
        · exact (hcgroup.comp (bump .parentChainDetects)).mono (by decide)
        · split
          · exact hvm.mono (by decide)
          · exact hvm.comp (fallbackClass h task)

end Adds

end Counters

/-! ## Waking up -/

namespace Machine

open Counters (Adds)

/-- The machine with other counters. -/
def counting (m : Machine) (c : Counters) : Machine := { m with counters := c }

variable (m : Machine) (task : Task) (s : TaskState) (set : CoreSet)

lemma exists_classifyAnew_counting :
    ∃ ks : List Counter, ks.length ≤ 10 ∧ ∀ c, (m.counting c).classifyAnew task =
      ((m.classifyAnew task).1, (m.classifyAnew task).2.counting (c.bumpAll ks)) := by
  obtain ⟨ks, hks, hcascade⟩ := (Adds.cascade m.hints m.host task).comp
    (.bumpIf (m.classifyAnew task).1.proton .protonTasks)
  refine ⟨ks, hks, fun c => ?_⟩
  have hclass : ((m.counting c).classifyAnew task).1 = (m.classifyAnew task).1 :=
    cascade_fst _ _ _ _ _
  refine Prod.ext hclass ?_
  rw [← hcascade, ← hclass]
  rfl

lemma exists_classify_counting :
    ∃ ks : List Counter, ks.length ≤ 10 ∧ ∀ c, (m.counting c).classify task s =
      ((m.classify task s).1, (m.classify task s).2.1,
        (m.classify task s).2.2.counting (c.bumpAll ks)) := by
  by_cases hs : s.flags.classified = true
  · refine ⟨[], Nat.zero_le 10, fun c => ?_⟩
    rw [classify, classify, if_pos hs, if_pos hs]
    rfl
  · obtain ⟨ks, hks, hanew⟩ := m.exists_classifyAnew_counting task
    refine ⟨ks, hks, fun c => ?_⟩
    rw [classify, classify, if_neg hs, if_neg hs, hanew]
    dsimp only
    split <;> rfl

lemma exists_refresh_counting (prev : Nat) :
    ∃ ks : List Counter, ks.length ≤ 10 ∧ ∀ c, (m.counting c).refresh task s prev =
      ((m.refresh task s prev).1, (m.refresh task s prev).2.counting (c.bumpAll ks)) := by
  obtain ⟨ks, hks, hclassify⟩ := m.exists_classify_counting task s
  refine ⟨ks, hks, fun c => ?_⟩
  unfold refresh
  rw [hclassify]
  rfl

/-- A look that claims no core counts nothing. -/
lemma exists_look_counting (pool : CpuMask) (whole : Bool) :
    ∃ ks : List Counter, ks.length ≤ 2 ∧ ((m.look set pool whole).1 = none → ks = []) ∧
      ∀ c, (m.counting c).look set pool whole =
        ((m.look set pool whole).1, (m.look set pool whole).2.counting (c.bumpAll ks)) := by
  have hbest : ∀ c, (m.counting c).bestOf? set pool = m.bestOf? set pool := fun _ => rfl
  unfold look
  simp only [hbest]
  rcases m.bestOf? set pool with _ | b
  · exact ⟨[], Nat.zero_le 2, fun _ => rfl, fun _ => rfl⟩
  · dsimp only
    rcases hclaim : m.host.claim b.cpu with ⟨won, host⟩
    have hhost : ∀ c, (m.counting c).host.claim b.cpu = (won, host) := fun _ => hclaim
    simp only [hhost]
    cases won with
    | false => exact ⟨[], Nat.zero_le 2, fun _ => rfl, fun _ => rfl⟩
    | true =>
      obtain ⟨ks, hks, hcount⟩ := (Adds.bumpIf whole .smtIdlePicks).comp
        (.bumpIf (set.credits b.rank) set.counter)
      refine ⟨ks, hks, fun h => (by cases h), fun c => ?_⟩
      simp only [if_true, countClaim_eq, ← hcount]
      rfl

lemma exists_pickIdle_counting (whole : Bool) :
    ∃ ks : List Counter, ks.length ≤ 2 ∧ ((m.pickIdle task set whole).1 = none → ks = []) ∧
      ∀ c, (m.counting c).pickIdle task set whole =
        ((m.pickIdle task set whole).1, (m.pickIdle task set whole).2.counting (c.bumpAll ks)) := by
  have hset : ∀ c, (m.counting c).topology.coreSet? set = m.topology.coreSet? set := fun _ => rfl
  have hhost : ∀ c, (m.counting c).host = m.host := fun _ => rfl
  have hprefers : ∀ c, (m.counting c).prefersWhole = m.prefersWhole := fun _ => rfl
  unfold pickIdle
  simp only [hset, hhost, hprefers]
  rcases m.topology.coreSet? set with _ | cores
  · exact ⟨[], Nat.zero_le 2, fun _ => rfl, fun _ => rfl⟩
  · dsimp only
    split
    · obtain ⟨as, has, hnone, hfirst⟩ :=
        m.exists_look_counting set (cores ∩ task.allowed ∩ m.host.idleWhole) true
      simp only [hfirst]
      rcases hlook : m.look set (cores ∩ task.allowed ∩ m.host.idleWhole) true with ⟨_ | cpu, m'⟩
      · obtain rfl := hnone (congrArg Prod.fst hlook)
        exact m'.exists_look_counting set (cores ∩ task.allowed ∩ m'.host.idle) false
      · exact ⟨as, has, fun h => (by cases h), fun _ => rfl⟩
    · exact m.exists_look_counting set (cores ∩ task.allowed ∩ m.host.idle) false

lemma exists_creditPlacement_counting (cpu : Nat) (credit : Credit) :
    ∃ ks : List Counter, ks.length ≤ 1 ∧ ∀ c, (m.counting c).creditPlacement task s cpu credit =
      (m.creditPlacement task s cpu credit).counting (c.bumpAll ks) := by
  cases credit with
  | quiet => exact ⟨[], Nat.zero_le 1, fun _ => rfl⟩
  | counter k => exact ⟨[k], Nat.le_refl 1, fun _ => rfl⟩
  | migration source => exact ⟨[.lowLatencyMigrations], Nat.le_refl 1, fun _ => rfl⟩

/-- Only the stage that ends the placement counts. -/
lemma exists_runStages_counting (stages : List Stage) :
    ∃ ks : List Counter, ks.length ≤ 3 ∧ ∀ c, (m.counting c).runStages task s stages =
      ((m.runStages task s stages).1, (m.runStages task s stages).2.counting (c.bumpAll ks)) := by
  induction stages generalizing m with
  | nil => exact ⟨[], Nat.zero_le 3, fun _ => rfl⟩
  | cons g stages ih =>
    obtain ⟨as, has, hnone, hpick⟩ := m.exists_pickIdle_counting task g.set g.whole
    simp only [runStages, hpick]
    rcases hfound : m.pickIdle task g.set g.whole with ⟨_ | cpu, m'⟩
    · obtain rfl := hnone (congrArg Prod.fst hfound)
      exact ih m'
    · obtain ⟨bs, hbs, hcredit⟩ := m'.exists_creditPlacement_counting task s cpu g.credit
      refine ⟨as ++ bs, ?_, fun c => ?_⟩
      · rw [List.length_append]
        exact Nat.add_le_add has hbs
      · simp only [hcredit, Counters.bumpAll_append]

/-! ## Waiting and running -/

lemma adds_kickVictim (domain : Nat) :
    Adds 1 fun c => ((m.counting c).kickVictim task domain).counters := by
  have hvictim : ∀ c, (m.counting c).victim? domain .gaming = m.victim? domain .gaming :=
    fun _ => rfl
  unfold kickVictim
  simp only [hvictim]
  rcases m.victim? domain .gaming with _ | cpu
  · exact Adds.nothing.mono (Nat.zero_le 1)
  · exact .bump .preemptKicks

lemma adds_attend (flags : TaskFlags) :
    Adds 2 fun c => ((m.counting c).attend task flags).counters := by
  unfold attend
  dsimp only
  split
  · split
    · exact (Adds.bump .gamingEnqueued).comp
        ((m.countGamingEnqueue task).adds_kickVictim task m.topology.lowLatencyDomain)
    · exact (Adds.bump .gamingEnqueued).mono (Nat.le_succ 1)
  · split
    · exact (Adds.bump .interactiveEnqueued).mono (Nat.le_succ 1)
    · exact Adds.nothing.mono (Nat.zero_le 2)

lemma counters_beginRun (urgency : Urgency) : (m.beginRun task urgency).counters = m.counters := by
  rw [beginRun, modifyLoadAt_eq]
  rfl

lemma counters_endRun (gaming : Bool) : (m.endRun task gaming).counters = m.counters := by
  rw [endRun, modifyLoadAt_eq]
  rfl

lemma adds_checkImbalance : Adds 1 fun c => (m.counting c).checkImbalance.counters := by
  have hdomains : ∀ c, (m.counting c).comparedDomains = m.comparedDomains := fun _ => rfl
  unfold checkImbalance
  simp only [hdomains]
  rcases m.comparedDomains with _ | ⟨a, b⟩
  · exact Adds.nothing.mono (Nat.zero_le 1)
  · dsimp only
    split
    · exact .bump .imbalanceEvents
    · split
      · exact .bump .imbalanceEvents
      · exact Adds.nothing.mono (Nat.zero_le 1)

end Machine

/-- The counters that hold times, and how many of them there are. -/
def CounterSet.times : CounterSet
  | .latencySumNs | .latencyCount | .latencyMaxNs | .latencyMinNs | .gamingLatencySumNs
  | .gamingLatencyCount | .gamingLatencySumSqUs => true
  | _ => false

/-- Beside times, a wait counts at most that a gaming task is late. -/
lemma Machine.exists_counters_accountWait (m : Machine) (task : Task) (gaming : Bool)
    (latency : Nat) :
    ∃ ks : List Counter, ks.length ≤ 1 ∧ ∀ c : Counters,
      (c.bumpAll ks).SameBut .times ((m.counting c).accountWait task gaming latency).counters := by
  have hwait : ∀ c : Counters, c.SameBut .times (c.wait latency) := fun c =>
    ((((Counters.SameBut.refl .times c).add rfl _).bump rfl).set rfl _).set rfl _
  cases gaming with
  | false => exact ⟨[], Nat.zero_le 1, hwait⟩
  | true =>
    obtain ⟨ks, hks, hlate⟩ :=
      Counters.Adds.bumpIf (decide (lateFrame < latency)) .gamingLateFrames
    refine ⟨ks, hks, fun c => ?_⟩
    have hcounters : ((m.counting c).accountWait task true latency).counters =
        (c.wait latency).waitGaming latency := by
      unfold accountWait
      simp only [if_true]
      split <;> rfl
    rw [hcounters, ← hlate]
    exact ((((hwait c).add (k := .gamingLatencySumNs) rfl latency).bump (k := .gamingLatencyCount)
      rfl).add (k := .gamingLatencySumSqUs) rfl _).bumpIf_both _ _

namespace Engine

open Counters (Adds)

/-! ## Calls -/

/-- The engine with other counters. -/
def counting (e : Engine) (c : Counters) : Engine := e.onMachine (·.counting c)

variable (e : Engine) (task : Task)

lemma counters_settle (prev : Nat) (found : Option Nat) :
    (e.settle task prev found).2.counters =
      e.counters.bumpIf (found.isSome || (e.host.choose task prev).1.2) .directDispatched := by
  cases found with
  | some cpu => rfl
  | none =>
    rcases hc : e.host.choose task prev with ⟨⟨cpu, idle⟩, host⟩
    simp only [settle, hc]
    cases idle <;> rfl

lemma exists_seekCore_counting (s : TaskState) (prev : Nat) :
    ∃ ks : List Counter, ks.length ≤ 13 ∧ ∀ c, (e.counting c).seekCore task s prev =
      ((e.seekCore task s prev).1, (e.seekCore task s prev).2.counting (c.bumpAll ks)) := by
  obtain ⟨as, has, hrefresh⟩ := e.toMachine.exists_refresh_counting task s prev
  obtain ⟨bs, hbs, hrun⟩ := (e.toMachine.refresh task s prev).2.exists_runStages_counting task
    (e.toMachine.refresh task s prev).1 ((e.toMachine.refresh task s prev).2.stages e.strategy
      (e.toMachine.refresh task s prev).1 prev)
  refine ⟨as ++ bs, ?_, fun c => ?_⟩
  · rw [List.length_append]
    exact Nat.add_le_add has hbs
  · rw [Counters.bumpAll_append]
    exact (congrArg (fun d : TaskState × Machine => d.2.place e.strategy task d.1 prev)
      (hrefresh c)).trans (hrun (c.bumpAll as))

lemma adds_selectCpu (prev : Nat) :
    Adds 14 fun c => ((e.counting c).selectCpu task prev).2.counters := by
  have hwoken : ∀ c, (e.counting c).woken? task prev = e.woken? task prev := fun _ => rfl
  rcases hw : e.woken? task prev with _ | s
  · simp only [selectCpu_of_not_woken? ((hwoken _).trans hw)]
    exact Adds.nothing.mono (Nat.zero_le 14)
  · obtain ⟨ks, hks, hseek⟩ := e.exists_seekCore_counting task s prev
    have hcounters : ∀ c, ((e.counting c).selectCpu task prev).2.counters =
        (c.bumpAll ks).bumpIf ((e.seekCore task s prev).1.isSome ||
          ((e.seekCore task s prev).2.host.choose task prev).1.2) .directDispatched := by
      intro c
      rw [selectCpu_of_woken? ((hwoken c).trans hw), hseek, counters_settle]
      rfl
    simp only [hcounters]
    exact Adds.comp ⟨ks, hks, fun _ => rfl⟩ (.bumpIf _ .directDispatched)

lemma adds_enqueue : Adds 3 fun c => ((e.counting c).enqueue task).counters := by
  have htask : ∀ c, ((e.counting c).tasks.track task.pid).get? task.pid =
      (e.tasks.track task.pid).get? task.pid := fun _ => rfl
  simp only [toMachine_enqueue, htask]
  rcases (e.tasks.track task.pid).get? task.pid with _ | s
  · exact (Adds.bump .enqueued).mono (by decide)
  · exact (Adds.bump .enqueued).comp ((e.toMachine.countEnqueue task).adds_attend task s.flags)

lemma adds_dispatch (cpu : Nat) :
    Adds 1 fun c => ((e.counting c).dispatch cpu).2.counters := by
  have hpop : ∀ c, (e.counting c).queues.popFirst? (drainOrder (e.counting c).topology cpu) =
      e.queues.popFirst? (drainOrder e.topology cpu) := fun _ => rfl
  simp only [toMachine_dispatch, hpop]
  split
  · exact .bump .dispatched
  · exact Adds.nothing.mono (Nat.zero_le 1)

lemma exists_counters_running :
    ∃ ks : List Counter, ks.length ≤ 1 ∧ ∀ c : Counters,
      (c.bumpAll ks).SameBut .times ((e.counting c).running task).counters := by
  have htask : ∀ c, (e.counting c).task? task.pid = e.task? task.pid := fun _ => rfl
  simp only [toMachine_running, Machine.counters_beginRun, htask]
  rcases e.task? task.pid with _ | s
  · exact ⟨[], Nat.zero_le 1, fun c => .refl _ c⟩
  · dsimp only
    split
    · exact e.toMachine.exists_counters_accountWait task s.flags.gaming (e.host.now - s.enqueuedAt)
    · exact ⟨[], Nat.zero_le 1, fun c => .refl _ c⟩

lemma adds_stopping (runnable : Bool) :
    Adds 1 fun c => ((e.counting c).stopping task runnable).counters := by
  have htask : ∀ c, (e.counting c).task? task.pid = e.task? task.pid := fun _ => rfl
  simp only [toMachine_stopping, Machine.counters_endRun, htask]
  split
  · exact .bump .gamingPreempted
  · exact Adds.nothing.mono (Nat.zero_le 1)

lemma adds_tick (cpu : Nat) : Adds 1 fun c => ((e.counting c).tick cpu).counters := by
  have hcore : ∀ c, (e.counting c).core? cpu = e.core? cpu := fun _ => rfl
  have hconfig : ∀ c, (e.counting c).config = e.config := fun _ => rfl
  have htopology : ∀ c, (e.counting c).topology = e.topology := fun _ => rfl
  simp only [toMachine_tick, hcore, hconfig, htopology]
  split
  · exact Adds.nothing.mono (Nat.zero_le 1)
  · split
    · exact Machine.adds_checkImbalance (e.toMachine.modifyCore cpu fun c =>
        { c with perf := c.perf.sample (e.host.perfOf cpu) e.host.now })
    · exact Adds.nothing.mono (Nat.zero_le 1)

/-- A call counts a few times, whatever was counted before. -/
lemma exists_counters_after (c : EngineCall) :
    ∃ ks : List Counter, ks.length ≤ 14 ∧ ∀ d : Counters,
      (d.bumpAll ks).SameBut .times ((e.counting d).after c).counters := by
  -- most calls change counters in no other way
  have hexact : ∀ {n : Nat} {f : Counters → Counters}, n ≤ 14 → Adds n f →
      ∃ ks : List Counter, ks.length ≤ 14 ∧ ∀ d : Counters, (d.bumpAll ks).SameBut .times (f d) := by
    rintro n f hn hf
    obtain ⟨ks, hks, hf⟩ := hf.mono hn
    exact ⟨ks, hks, fun d => hf d ▸ .refl _ _⟩
  cases c with
  | selectCpu task prev => exact hexact (Nat.le_refl 14) (e.adds_selectCpu task prev)
  | enqueue task => exact hexact (by decide) (e.adds_enqueue task)
  | dispatch cpu => exact hexact (by decide) (e.adds_dispatch cpu)
  | running task =>
    obtain ⟨ks, hks, hrunning⟩ := e.exists_counters_running task
    exact ⟨ks, hks.trans (by decide), hrunning⟩
  | stopping task runnable => exact hexact (by decide) (e.adds_stopping task runnable)
  | tick cpu => exact hexact (by decide) (e.adds_tick cpu)
  | noteProfileMatch | taskExit | exit | readEvents | settings | knowledge | platform =>
    exact hexact (Nat.zero_le 14) .nothing

/-! ## Gains -/

/-- What a call adds to a counter: what an engine that has counted nothing shows after it. -/
def gain (e : Engine) (c : EngineCall) (k : Counter) : Nat :=
  ((e.counting .zero).after c).counters.get k

/-- What calls in order add to a counter. -/
def gains (e : Engine) (k : Counter) : List EngineCall → Nat
  | [] => 0
  | c :: cs => e.gain c k + (e.after c).gains k cs

variable {e} {k : Counter} {a : Nat}

/-- No call adds much to a counter. -/
lemma gain_le (hk : CounterSet.times k = false) (c : EngineCall) : e.gain c k ≤ 14 := by
  obtain ⟨ks, hks, hcounters⟩ := e.exists_counters_after c
  rw [gain, hcounters .zero k hk, Counters.get_bumpAll (a := 0) (Ledger.get_zero k), Nat.zero_add]
  exact (Nat.mod_le _ _).trans (List.count_le_length.trans hks)

/-- Few calls do not add much. -/
lemma gains_le (hk : CounterSet.times k = false) (cs : List EngineCall) :
    e.gains k cs ≤ 14 * cs.length := by
  induction cs generalizing e with
  | nil => exact Nat.zero_le _
  | cons c cs ih =>
    rw [gains, List.length_cons, Nat.mul_succ, Nat.add_comm]
    exact Nat.add_le_add ih (gain_le hk c)

/-- A counter goes on by what a call adds. -/
lemma get_counters_after (hk : CounterSet.times k = false) (h : e.counters.get k = wrap64 a)
    (c : EngineCall) : (e.after c).counters.get k = wrap64 (a + e.gain c k) := by
  obtain ⟨ks, -, hcounters⟩ := e.exists_counters_after c
  have hgain : e.gain c k = wrap64 (ks.count k) := by
    rw [gain, hcounters .zero k hk, Counters.get_bumpAll (a := 0) (Ledger.get_zero k), Nat.zero_add]
  rw [hgain, Nat.add_comm a, wrap64_wrap64_add, Nat.add_comm, ← Counters.get_bumpAll h]
  exact hcounters e.counters k hk

lemma get_counters_afterAll (hk : CounterSet.times k = false) (h : e.counters.get k = wrap64 a)
    (cs : List EngineCall) : (e.afterAll cs).counters.get k = wrap64 (a + e.gains k cs) := by
  induction cs generalizing e a with
  | nil => exact h
  | cons c cs ih =>
    rw [gains, ← Nat.add_assoc]
    exact ih (get_counters_after hk h c)

lemma gains_append (e : Engine) (k : Counter) (as bs : List EngineCall) :
    e.gains k (as ++ bs) = e.gains k as + (e.afterAll as).gains k bs := by
  induction as generalizing e with
  | nil => exact (Nat.zero_add _).symm
  | cons c as ih =>
    rw [List.cons_append, gains, gains, ih, Nat.add_assoc]
    rfl

end Engine

end CoreSteer
