import CoreSteer.Proofs.Simulation.Deeds
import CoreSteer.Proofs.Simulation.Visits
/-!
# Threads that take the places of others

A thread that has lived long enough makes room for another one, whose id comes from a counter.
Nothing else that happens in a simulation brings threads or takes them away.  The counter starts at
a fixed number, comes round after the largest word, and does not look at the ids that are in use: as
long as it has not come across one of the scenario's ids, nor come round altogether, the new id is
nobody's, and there are as many threads as the scenario has.
-/
namespace CoreSteer

/-- The id that the counter gives away after it gave away `i` others. -/
def freshId (i : Nat) : Nat := wrap32 (10000 + i)

/-- How many ids the counter gives away before it comes round to zero. -/
def freshIds : Nat := UInt32.size - 10000

lemma freshId_succ (i : Nat) : freshId (i + 1) = wrap32 (freshId i + 1) :=
  (Nat.mod_add_mod (10000 + i) UInt32.size 1).symm

lemma freshId_of_lt {i : Nat} (h : i < freshIds) : freshId i = 10000 + i :=
  wrap32_of_lt (Nat.add_lt_of_lt_sub' h)

/-- The counter gives no id away twice before it has given away all of them. -/
lemma freshId_ne {i j : Nat} (h : i < j) (hj : j < UInt32.size) : freshId i ≠ freshId j := by
  have hj : j < 4294967296 := hj
  show (10000 + i) % 4294967296 ≠ (10000 + j) % 4294967296
  omega

/-- No thread of a scenario has an id that the counter gives away among the first `n`, and the counter
gives none of them away twice. -/
def Scenario.Spares (sc : Scenario) (n : Nat) : Prop :=
  n ≤ UInt32.size ∧ ∀ spec ∈ sc.threads, ∀ i < n, freshId i ≠ spec.pid

namespace Scenario.Spares

variable {sc : Scenario} {m n : Nat}

lemma mono (h : sc.Spares n) (hle : m ≤ n) : sc.Spares m :=
  ⟨hle.trans h.1, fun spec hspec i hi => h.2 spec hspec i (Nat.lt_of_lt_of_le hi hle)⟩

/-- If all ids of a scenario are small, the counter comes across none of them before it comes
round. -/
lemma of_lt (hlt : ∀ spec ∈ sc.threads, spec.pid < 10000) (h : n ≤ freshIds) : sc.Spares n := by
  refine ⟨h.trans (Nat.sub_le _ _), fun spec hspec i hi => ?_⟩
  have hsmall := hlt spec hspec
  rw [freshId_of_lt (Nat.lt_of_lt_of_le hi h)]
  omega

end Scenario.Spares

namespace Simulation

variable {ρ : Type} {s s' s'' : Simulation ρ} {pid cpu n : Nat} {t : Thread}

/-- The same ids belong to threads, and the counter stands where it stood. -/
structure SameThreads (s s' : Simulation ρ) : Prop where
  /-- The counter stands where it stood. -/
  nextPid : s'.nextPid = s.nextPid
  /-- The same ids belong to threads. -/
  mem_iff : ∀ p, p ∈ s'.threads ↔ p ∈ s.threads
  /-- There are as many threads as before. -/
  nrThreads : s'.nrThreads = s.nrThreads

/-- One thread made room for another one, whose id the counter gave; if that id was another
thread's, there is one thread less. -/
structure Replaced (s : Simulation ρ) (pid : Nat) (s' : Simulation ρ) : Prop where
  /-- The thread was there. -/
  mem : pid ∈ s.threads
  /-- The counter moved on. -/
  nextPid : s'.nextPid = wrap32 (s.nextPid + 1)
  /-- The id of the thread is free, and the one that the counter gave is in use. -/
  mem_iff : ∀ p, p ∈ s'.threads ↔ p = s.nextPid ∨ (p ≠ pid ∧ p ∈ s.threads)
  /-- There are as many threads as before, unless the new id was in use. -/
  nrThreads :
    s'.nrThreads + (if s.nextPid ≠ pid ∧ s.nextPid ∈ s.threads then 1 else 0) = s.nrThreads

/-! ## How many threads there are -/

lemma nrThreads_putThread_of_mem (h : pid ∈ s.threads) (t : Thread) :
    (s.putThread pid t).nrThreads = s.nrThreads :=
  Std.ExtTreeMap.size_insert.trans (if_pos h)

lemma nrThreads_putThread_of_not_mem (h : pid ∉ s.threads) (t : Thread) :
    (s.putThread pid t).nrThreads = s.nrThreads + 1 :=
  Std.ExtTreeMap.size_insert.trans (if_neg h)

lemma size_threads_erase (h : pid ∈ s.threads) :
    (s.threads.erase pid).size + 1 = s.nrThreads := by
  have hpos : 0 < s.threads.size := by
    refine Nat.pos_of_ne_zero fun hz => ?_
    rw [← Std.ExtTreeMap.eq_empty_iff_size_eq_zero] at hz
    rw [hz] at h
    exact Std.ExtTreeMap.not_mem_empty h
  rw [Std.ExtTreeMap.size_erase, if_pos (by exact h)]
  exact Nat.sub_add_cancel hpos

namespace SameThreads

lemma refl (s : Simulation ρ) : SameThreads s s := ⟨rfl, fun _ => Iff.rfl, rfl⟩

lemma trans (h : SameThreads s s') (h' : SameThreads s' s'') : SameThreads s s'' :=
  ⟨h'.nextPid.trans h.nextPid, fun p => (h'.mem_iff p).trans (h.mem_iff p),
    h'.nrThreads.trans h.nrThreads⟩

lemma of_eq (ht : s'.threads = s.threads) (hn : s'.nextPid = s.nextPid) : SameThreads s s' :=
  ⟨hn, fun p => by rw [ht], by rw [Simulation.nrThreads, Simulation.nrThreads, ht]⟩

/-- Writing the state of a thread that is there brings nobody. -/
lemma putThread (h : pid ∈ s.threads) (t : Thread) : SameThreads s (s.putThread pid t) := by
  refine ⟨rfl, fun p => ?_, nrThreads_putThread_of_mem h t⟩
  refine (mem_threads_putThread s pid p t).trans (or_iff_right_of_imp ?_)
  rintro rfl
  exact h

lemma turnover_eq (h : SameThreads s s') : s.turnover s' = 0 := if_pos h.nextPid

end SameThreads

namespace Replaced

lemma trans (h : s.Replaced pid s') (h' : SameThreads s' s'') : s.Replaced pid s'' :=
  ⟨h.mem, h'.nextPid.trans h.nextPid, fun p => (h'.mem_iff p).trans (h.mem_iff p),
    h'.nrThreads.symm ▸ h.nrThreads⟩

lemma of_same (h : SameThreads s s') (h' : s'.Replaced pid s'') : s.Replaced pid s'' := by
  refine ⟨(h.mem_iff pid).1 h'.mem, h.nextPid ▸ h'.nextPid, fun p => ?_, ?_⟩
  · rw [h'.mem_iff, h.nextPid, h.mem_iff]
  · have hsize := h'.nrThreads
    rw [h.nextPid, h.nrThreads] at hsize
    simp only [h.mem_iff] at hsize
    exact hsize

lemma turnover_eq (h : s.Replaced pid s') : s.turnover s' = 1 := by
  refine if_neg fun heq => ?_
  have hnext : s.nextPid = (s.nextPid + 1) % 4294967296 := heq.symm.trans h.nextPid
  omega

variable [Random.DrawSource ρ]

lemma replace (h : pid ∈ s.threads) (t : Thread) : s.Replaced pid (s.replace pid t) := by
  have hmem : ∀ p, p ∈ (s.replace pid t).threads ↔
      p = s.nextPid ∨ (p ≠ pid ∧ p ∈ s.threads) := by
    intro p
    refine (mem_threads_putThread { s with threads := s.threads.erase pid } s.nextPid p _).trans ?_
    exact or_congr_right (mem_threads_erase s pid p)
  refine ⟨h, rfl, hmem, ?_⟩
  have hsize := size_threads_erase h
  by_cases hnew : s.nextPid ≠ pid ∧ s.nextPid ∈ s.threads
  · rw [if_pos hnew, ← hsize]
    refine congrArg (· + 1) ?_
    exact nrThreads_putThread_of_mem (s := { s with threads := s.threads.erase pid })
      ((mem_threads_erase s pid s.nextPid).2 hnew) _
  · rw [if_neg hnew, Nat.add_zero, ← hsize]
    exact nrThreads_putThread_of_not_mem (s := { s with threads := s.threads.erase pid })
      (mt (mem_threads_erase s pid s.nextPid).1 hnew) _

end Replaced

/-! ## Whatever happens -/

/-- What may become of the threads of a simulation in one event. -/
def Changed (s s' : Simulation ρ) : Prop := SameThreads s s' ∨ ∃ pid, s.Replaced pid s'

variable [Random.DrawSource ρ]

lemma Deed.sameThreads (h : s.Deed s') : SameThreads s s' := by
  cases h with
  | write ht _ => exact .putThread (mem_threads_of_eq_some ht) _
  | call | core | plan | urge | draw | shelve | count => exact .of_eq rfl rfl

lemma Deeds.sameThreads (h : s.Deeds s') : SameThreads s s' :=
  h.preserves (fun _ _ hdeed hs => hs.trans hdeed.sameThreads) (.refl s)

lemma Happens.changed (h : s.Happens s') : s.Changed s' := by
  cases h with
  | quietly h => exact .inl h.sameThreads
  | @replacing s₁ pid t h ht h' =>
    have hreplaced := Replaced.replace (mem_threads_of_eq_some ht) t
    exact .inr ⟨pid, .of_same h.sameThreads (hreplaced.trans h'.sameThreads)⟩

lemma Changed.step {limit : Nat} (h : s.step? limit = some s') : s.Changed s' := by
  obtain ⟨a, rest, -, rfl⟩ := step?_eq_some_iff.1 h
  have hcome : SameThreads s (s.comeTo a rest) := .of_eq rfl rfl
  exact (s.happens_keep a rest).changed.imp hcome.trans fun ⟨pid, hr⟩ => ⟨pid, .of_same hcome hr⟩

/-! ## Runs -/

omit [Random.DrawSource ρ] in
/-- After `n` threads made room, the threads come from a scenario, or their ids come from the
counter. -/
structure Accounted (sc : Scenario) (n : Nat) (s : Simulation ρ) : Prop where
  /-- The counter moved on for each thread that made room. -/
  nextPid : s.nextPid = freshId n
  /-- The id of a thread comes from the scenario, or was given away by the counter. -/
  origin : ∀ p ∈ s.threads, p ∈ sc.threads.map (·.pid) ∨ ∃ i < n, p = freshId i
  /-- As long as the counter has not come across the scenario, there are as many threads as it
  has. -/
  nrThreads : sc.Spares n → s.nrThreads = sc.threads.length

namespace Accounted

variable {sc : Scenario}

omit [Random.DrawSource ρ]

lemma same (h : s.Accounted sc n) (h' : SameThreads s s') : s'.Accounted sc n where
  nextPid := h'.nextPid.trans h.nextPid
  origin p hp := h.origin p ((h'.mem_iff p).1 hp)
  nrThreads hsc := h'.nrThreads.trans (h.nrThreads hsc)

/-- The id that the counter gives next is nobody's, as long as the counter does not come across the
scenario with it. -/
lemma nextPid_not_mem (h : s.Accounted sc n) (hsc : sc.Spares (n + 1)) :
    s.nextPid ∉ s.threads := by
  intro hmem
  rw [h.nextPid] at hmem
  rcases h.origin _ hmem with hscenario | ⟨i, hi, heq⟩
  · obtain ⟨spec, hspec, heq⟩ := List.mem_map.1 hscenario
    exact hsc.2 spec hspec n (Nat.lt_succ_self n) heq.symm
  · exact freshId_ne hi hsc.1 heq.symm

lemma replaced (h : s.Accounted sc n) (hr : s.Replaced pid s') : s'.Accounted sc (n + 1) where
  nextPid := by rw [hr.nextPid, h.nextPid, freshId_succ]
  origin p hp := by
    rcases (hr.mem_iff p).1 hp with rfl | ⟨-, hold⟩
    · exact .inr ⟨n, Nat.lt_succ_self n, h.nextPid⟩
    · exact (h.origin p hold).imp_right fun ⟨i, hi, heq⟩ => ⟨i, Nat.lt_succ_of_lt hi, heq⟩
  nrThreads hsc := by
    have hfree := h.nextPid_not_mem hsc
    have hsize := hr.nrThreads
    rw [if_neg fun hno => hfree hno.2, h.nrThreads (hsc.mono (Nat.le_succ n))] at hsize
    exact hsize

lemma changed (h : s.Accounted sc n) (h' : s.Changed s') :
    s'.Accounted sc (n + s.turnover s') := by
  rcases h' with hsame | ⟨pid, hr⟩
  · rw [hsame.turnover_eq]
    exact h.same hsame
  · rw [hr.turnover_eq]
    exact h.replaced hr

end Accounted

/-- Threads that come into being under ids of their own are all there. -/
lemma spawnAll {specs : List ThreadSpec} (hn : (specs.map (·.pid)).Nodup)
    (hnew : ∀ p ∈ specs.map (·.pid), p ∉ s.threads) :
    (specs.foldl spawn s).nextPid = s.nextPid ∧
      (∀ p, p ∈ (specs.foldl spawn s).threads ↔ p ∈ specs.map (·.pid) ∨ p ∈ s.threads) ∧
      (specs.foldl spawn s).nrThreads = s.nrThreads + specs.length := by
  induction specs generalizing s with
  | nil => exact ⟨rfl, fun p => by simp, rfl⟩
  | cons spec specs ih =>
    obtain ⟨hspec, hn⟩ := List.nodup_cons.1 hn
    have hmem : ∀ p, p ∈ (s.spawn spec).threads ↔ p = spec.pid ∨ p ∈ s.threads := fun p =>
      mem_threads_putThread s spec.pid p _
    have hsize : (s.spawn spec).nrThreads = s.nrThreads + 1 :=
      nrThreads_putThread_of_not_mem (hnew _ List.mem_cons_self) _
    obtain ⟨hnext, hall, hcount⟩ := ih (s := s.spawn spec) hn fun p hp hin => by
      rcases (hmem p).1 hin with rfl | hold
      · exact hspec hp
      · exact hnew p (List.mem_cons_of_mem _ hp) hold
    refine ⟨hnext, fun p => ?_, ?_⟩
    · rw [List.foldl_cons, hall, hmem, List.map_cons, List.mem_cons, or_left_comm, or_assoc]
    · rw [List.foldl_cons, hcount, hsize, List.length_cons]
      omega

/-- At the start all threads come from the scenario. -/
lemma accounted_start {sc : Scenario} (hn : (sc.threads.map (·.pid)).Nodup) (e : Engine)
    (rng : ρ) (shelf : Option Shelf) : { start e sc rng with shelf := shelf }.Accounted sc 0 := by
  obtain ⟨hnext, hmem, hsize⟩ := spawnAll (s := {
    engine := e.onMachine fun m => { m with
      host := sc.processes.foldl (fun h p => h.addProcess p.1 p.2.1 p.2.2) e.host
      hints := withHintsOf m.hints sc }
    rng := rng
    now := (sc.processes.foldl (fun h p => h.addProcess p.1 p.2.1 p.2.2) e.host).now
    cores := Array.replicate e.topology.nrCpus {} }) hn fun p _ => Std.ExtTreeMap.not_mem_empty
  refine ⟨hnext, fun p hp => .inl ?_, fun _ => ?_⟩
  · exact ((hmem p).1 hp).resolve_right Std.ExtTreeMap.not_mem_empty
  · exact hsize.trans (Nat.zero_add _)

lemma Visits.accounted {s₀ : Simulation ρ} {sc : Scenario} {last : Nat}
    (hv : Visits s₀ last n s) (h₀ : s₀.Accounted sc 0) : s.Accounted sc n := by
  induction hv with
  | start => exact h₀
  | event _ _ hs ih => exact ih.changed (.step hs)
  | rest _ _ _ ih => exact ih.same (.of_eq rfl rfl)
  | edit _ _ _ ih => exact ih.same (.of_eq rfl rfl)

/-- Threads are replaced one for one as long as ids do not clash.  In a simulation of threads with
ids of their own, whatever happens and whatever the draws are, each event leaves the threads as they
are, or puts another one in the place of one of them, under the id that the counter gives.  After `n`
threads made room there are as many threads as the scenario has, if the counter has come across none
of the scenario's ids and has not come round; and if it does neither with the next id, that id is
nobody's. -/
theorem replaced_one_for_one (t : Topology) (config : EngineConfig) (tunables : TunablesCell)
    (hints : Hints) :
    ∃ e, Engine.start t config tunables hints (.ofTopology t) = .ok e ∧
      ∀ (sc : Scenario) (rng : ρ) (shelf : Option Shelf) (last n : Nat) (s : Simulation ρ),
        (sc.threads.map (·.pid)).Nodup →
        Visits { start e sc rng with shelf := shelf } last n s →
          (sc.Spares n → s.nrThreads = sc.threads.length) ∧
          (sc.Spares (n + 1) → s.nextPid ∉ s.threads) ∧
          ∀ limit s', s.step? limit = some s' → SameThreads s s' ∨ ∃ pid, s.Replaced pid s' := by
  obtain ⟨queues, -, hstart⟩ := Engine.exists_start t config tunables hints (.ofTopology t)
  refine ⟨_, hstart, fun sc rng shelf last n s hn hs => ?_⟩
  have h := hs.accounted (accounted_start hn _ rng shelf)
  exact ⟨h.nrThreads, h.nextPid_not_mem, fun limit s' => Changed.step⟩

/-- An editor, and a compiler that makes room after its first run. -/
def shortLived : Scenario where
  threads := [
    { pid := 2, tgid := 2, parent := 1, name := "vim", run := ⟨1, 1⟩, sleep := ⟨1000, 1000⟩ },
    { pid := 1, tgid := 1, parent := 1, name := "cc1plus", run := ⟨1, 1⟩, sleep := ⟨1000, 1000⟩
      lifetime := some 0 }]

/-- The editor and the compiler wake up, and the compiler makes room after the settings were
changed. -/
lemma shortLived_runs :
    ∃ (s₀ s₁ s₂ : Simulation Random.KeyStream) (n : Nat),
      s₀ = { start Engine.onTwoDomains shortLived (.ofSeed 0) with shelf := none } ∧
      s₀.runUntil? 25844 = some s₁ ∧
      (s₁.onEngine fun e => { e with
        tunables := some { gamingMode := false }, hints := {} }).runUntil? 30000 = some s₂ ∧
      Visits s₀ 30000 n s₂ ∧ n < freshIds ∧ s₂.nextPid = 10001 := by
  have hruns : (({ start Engine.onTwoDomains shortLived (Random.KeyStream.ofSeed 0) with
      shelf := none } : Simulation Random.KeyStream).runWithin? 25844 5).any fun s₁ =>
        ((s₁.onEngine fun e => { e with
          tunables := some { gamingMode := false }, hints := {} }).runWithin? 30000 5).any fun s₂ =>
            s₂.nextPid == 10001 := by
    decide +kernel
  simp only [Option.any_eq_true, beq_iff_eq] at hruns
  obtain ⟨s₁, hs₁, s₂, hs₂, hnext⟩ := hruns
  obtain ⟨hrun₁, k, hk, hv₁⟩ := (Visits.start : Visits _ 30000 _ _).runWithin? (by decide) hs₁
  obtain ⟨hrun₂, l, hl, hv₂⟩ := (hv₁.edit _ _).runWithin? (Nat.le_refl _) hs₂
  have hids : 0 + k + l < freshIds := (by omega : 0 + k + l ≤ 10).trans_lt (by decide)
  exact ⟨_, s₁, s₂, _, rfl, hrun₁, hrun₂, hv₂, hids, hnext⟩

theorem replaced_one_for_one_shortLived :
    ∃ e, Engine.start .twoDomains { taskCapacity := 0 } none {} (.ofTopology .twoDomains) = .ok e ∧
      (shortLived.threads.map (·.pid)).Nodup ∧
      ∃ (s₀ s : Simulation Random.KeyStream) (n : Nat),
        s₀ = { start e shortLived (.ofSeed 0) with shelf := none } ∧
        s₀.runUntil? 30000 = some s ∧ Visits s₀ 30000 n s ∧ shortLived.Spares (n + 1) ∧
        s.nrThreads = 2 ∧ s.nextPid ∉ s.threads := by
  obtain ⟨e, hstart, h⟩ := replaced_one_for_one (ρ := Random.KeyStream) .twoDomains
    { taskCapacity := 0 } none {}
  obtain rfl : Engine.onTwoDomains = e :=
    Except.ok.inj (Engine.start_twoDomains.symm.trans hstart)
  have hn : (shortLived.threads.map (·.pid)).Nodup := by decide
  have hends : (({ start Engine.onTwoDomains shortLived (Random.KeyStream.ofSeed 0) with
      shelf := none } : Simulation Random.KeyStream).runWithin? 30000 10).isSome := by
    decide +kernel
  obtain ⟨s, hs⟩ := Option.isSome_iff_exists.1 hends
  obtain ⟨hrun, k, hk, hv⟩ := (Visits.start : Visits _ 30000 _ _).runWithin? (Nat.le_refl _) hs
  have hspares : shortLived.Spares (0 + k + 1) :=
    .of_lt (by decide) (le_trans (by omega : 0 + k + 1 ≤ 11) (by decide))
  obtain ⟨hsize, hfree, -⟩ := h shortLived (.ofSeed 0) none 30000 _ s hn hv
  exact ⟨_, hstart, hn, _, s, _, rfl, hrun, hv, hspares, hsize (hspares.mono (Nat.le_succ _)),
    hfree hspares⟩

/-! ### A clash -/

/-- A thread under the first id that the counter gives, and one that makes room after its first
run. -/
def clashingIds : Scenario where
  threads := [
    { pid := 10000, tgid := 10000, parent := 1, name := "make", run := ⟨1, 1⟩, sleep := ⟨1000, 1000⟩ },
    { pid := 1, tgid := 1, parent := 1, name := "cc1plus", run := ⟨1, 1⟩, sleep := ⟨1000, 1000⟩
      lifetime := some 0 }]

/-- The second thread makes room before the first one wakes up, and the one that takes its place
takes that of the first one as well. -/
theorem clashing_ids_lose_a_thread :
    (clashingIds.threads.map (·.pid)).Nodup ∧ (∀ spec ∈ clashingIds.threads, spec.pid < UInt32.size) ∧
      clashingIds.threads.length = 2 ∧
      ∃ (s₀ s : Simulation Random.KeyStream) (n : Nat),
        s₀ = start Engine.onTwoDomains clashingIds (.ofSeed 0) ∧ s₀.runUntil? 100000 = some s ∧
        Visits s₀ 100000 n s ∧ s₀.nrThreads = 2 ∧ s₀.nextPid ∈ s₀.threads ∧ s.nrThreads = 1 := by
  have hends : ((start Engine.onTwoDomains clashingIds (Random.KeyStream.ofSeed 0)).runWithin?
      100000 5).map (·.nrThreads) = some 1 := by
    decide +kernel
  obtain ⟨s, hs, hsize⟩ := Option.map_eq_some_iff.1 hends
  obtain ⟨hrun, k, -, hv⟩ := (Visits.start : Visits _ 100000 _ _).runWithin? (Nat.le_refl _) hs
  refine ⟨by decide, by decide, rfl, _, s, _, rfl, hrun, hv, ?_, ?_, hsize⟩
  all_goals decide +kernel

end Simulation

end CoreSteer
