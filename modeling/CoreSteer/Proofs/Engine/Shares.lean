import CoreSteer.Proofs.Engine.Timesheet
import Mathlib.Algebra.Order.BigOperators.Group.List
import Mathlib.Algebra.Order.Group.Nat
import Mathlib.Data.Nat.ModEq
/-!
# What is counted of cores adds up

Tasks enqueued, and times from enqueue to run, are counted twice: for the core that they happened
on, and for all cores together.  The two copies are written in different places, and a call may end
between them.  They agree all the same: `Machine.AddsUp` says that what is counted of the cores
adds up to what is counted of all together, the sums modulo the machine word, in which both copies
wrap around, and the longest time as a maximum.  It holds after any calls about tasks on cores that
exist.

Calls of a core for a task are counted for the core before it is known whether there is a task, so
there are at least as many of them as tasks handed out, as long as no sum wraps around.
-/
namespace CoreSteer

/-! ## Lists of numbers of which one changes -/

section Modify

variable {xs : List Nat} {i n : Nat} {f : Nat → Nat}

lemma sum_modify_add (hi : i < xs.length) : (xs.modify i f).sum + xs[i] = xs.sum + f xs[i] := by
  induction xs generalizing i with
  | nil => cases hi
  | cons x xs ih =>
    cases i with
    | zero =>
      rw [List.modify_zero_cons, List.sum_cons, List.sum_cons, List.getElem_cons_zero]
      omega
    | succ i =>
      have hrest := ih (Nat.lt_of_succ_lt_succ hi)
      rw [List.modify_succ_cons, List.sum_cons, List.sum_cons, List.getElem_cons_succ]
      omega

/-- What is added to one number, in a machine word, is added to the sum. -/
lemma wrap64_sum_modify (hi : i < xs.length) :
    wrap64 (xs.modify i fun x => wrap64 (x + n)).sum = wrap64 (xs.sum + n) := by
  have hmod : (xs.modify i fun x => wrap64 (x + n)).sum + xs[i] ≡ xs.sum + n + xs[i]
      [MOD UInt64.size] := by
    rw [sum_modify_add hi, Nat.add_assoc, Nat.add_comm n]
    exact (Nat.mod_modEq _ _).add_left _
  exact hmod.add_right_cancel'

lemma foldr_max_modify (hi : i < xs.length) :
    (xs.modify i (max · n)).foldr max 0 = max (xs.foldr max 0) n := by
  induction xs generalizing i with
  | nil => cases hi
  | cons x xs ih =>
    cases i with
    | zero =>
      rw [List.modify_zero_cons, List.foldr_cons, List.foldr_cons]
      omega
    | succ i =>
      rw [List.modify_succ_cons, List.foldr_cons, List.foldr_cons, ih (Nat.lt_of_succ_lt_succ hi)]
      omega

end Modify

namespace Machine

/-! ## Sums over cores -/

/-- A number that is kept of each core. -/
def overCores (m : Machine) (p : CoreStats → Nat) : List Nat :=
  (m.cores.map fun c => p c.stats).toList

/-- The sum of a number over all cores. -/
def sumOver (m : Machine) (p : CoreStats → Nat) : Nat := (m.overCores p).sum

/-- The largest of a number over all cores. -/
def largest (m : Machine) (p : CoreStats → Nat) : Nat := (m.overCores p).foldr max 0

variable (m : Machine) (task : Task) {cpu x : Nat} {p : CoreStats → Nat} {f : CoreState → CoreState}

lemma length_overCores (p : CoreStats → Nat) : (m.overCores p).length = m.cores.size := by
  rw [overCores, Array.length_toList, Array.size_map]

lemma overCores_modifyCore {g : Nat → Nat} (h : ∀ c, p (f c).stats = g (p c.stats)) :
    (m.modifyCore cpu f).overCores p = (m.overCores p).modify cpu g := by
  rw [overCores, m.map_modifyCore cpu h, Array.toList_modify]
  rfl

lemma overCores_modifyCore_eq (h : ∀ c, p (f c).stats = p c.stats) :
    (m.modifyCore cpu f).overCores p = m.overCores p :=
  congrArg Array.toList (m.map_modifyCore_eq cpu h)

lemma size_modifyCore (cpu : Nat) (f : CoreState → CoreState) :
    (m.modifyCore cpu f).cores.size = m.cores.size := Array.size_modify

/-- What is added to a number of one core, in a machine word, is added to the sum. -/
lemma wrap64_sumOver_modifyCore (hcpu : cpu < m.cores.size)
    (h : ∀ c, p (f c).stats = wrap64 (p c.stats + x)) :
    wrap64 ((m.modifyCore cpu f).sumOver p) = wrap64 (m.sumOver p + x) := by
  rw [sumOver, m.overCores_modifyCore (g := fun y => wrap64 (y + x)) h]
  exact wrap64_sum_modify (m.length_overCores p ▸ hcpu)

lemma largest_modifyCore (hcpu : cpu < m.cores.size)
    (h : ∀ c, p (f c).stats = max (p c.stats) x) :
    (m.modifyCore cpu f).largest p = max (m.largest p) x := by
  rw [largest, m.overCores_modifyCore (g := (max · x)) h]
  exact foldr_max_modify (m.length_overCores p ▸ hcpu)

/-! ## Adding up -/

/-- What is counted of the cores adds up to what is counted of all together; each core called for a
task as often as the list says. -/
structure AddsUp (m : Machine) (calls : List Nat) : Prop where
  /-- All cores are counted. -/
  size : m.cores.size = m.topology.nrCpus
  /-- Tasks enqueued add up. -/
  enqueued : m.counters.get .enqueued = wrap64 (m.sumOver (·.enqueued))
  /-- Gaming tasks add up. -/
  gaming : m.counters.get .gamingEnqueued = wrap64 (m.sumOver (·.gamingTasks))
  /-- Times from enqueue to run add up in number. -/
  waits : m.counters.get .latencyCount = wrap64 (m.sumOver (·.latencyCount))
  /-- They add up in length. -/
  waited : m.counters.get .latencySumNs = wrap64 (m.sumOver (·.latencySum))
  /-- The longest of all is the longest of some core. -/
  longest : m.counters.get .latencyMaxNs = m.largest (·.latencyMax)
  /-- Calls for a task are counted. -/
  called : m.overCores (·.dispatched) = calls

end Machine

/-- The counters of which no core has a copy that adds up. -/
def CounterSet.uncopied : CounterSet
  | .enqueued | .gamingEnqueued | .latencyCount | .latencySumNs | .latencyMaxNs => false
  | _ => true

/-- What is counted of a core, without the time that it was busy or idle. -/
def CoreState.counted (c : CoreState) : CoreStats := { c.stats with idle := 0, busy := 0 }

namespace Machine.AddsUp

variable {m n : Machine} {task : Task} {calls : List Nat} {a x cpu : Nat} {p : CoreStats → Nat}
  {f : CoreState → CoreState}

/-- Nothing that adds up is counted. -/
lemma of_same (h : m.AddsUp calls) (hc : m.counters.SameBut .uncopied n.counters)
    (ht : n.topology = m.topology) (hcores : n.cores.map (·.counted) = m.cores.map (·.counted)) :
    n.AddsUp calls := by
  have hsize : n.cores.size = m.cores.size := by
    rw [← Array.size_map (f := CoreState.counted), hcores, Array.size_map]
  have hover : ∀ p : CoreStats → Nat, (∀ c : CoreState, p c.counted = p c.stats) →
      n.overCores p = m.overCores p := by
    intro p hp
    have hread : ∀ l : Machine, l.overCores p = ((l.cores.map (·.counted)).map p).toList := by
      intro l
      rw [overCores, Array.map_map]
      exact congrArg (fun q => (l.cores.map q).toList) (funext fun c => (hp c).symm)
    rw [hread, hread, hcores]
  exact {
    size := by rw [hsize, ht, h.size]
    enqueued := by rw [hc _ rfl, h.enqueued, sumOver, sumOver, hover _ fun _ => rfl]
    gaming := by rw [hc _ rfl, h.gaming, sumOver, sumOver, hover _ fun _ => rfl]
    waits := by rw [hc _ rfl, h.waits, sumOver, sumOver, hover _ fun _ => rfl]
    waited := by rw [hc _ rfl, h.waited, sumOver, sumOver, hover _ fun _ => rfl]
    longest := by rw [hc _ rfl, h.longest, largest, largest, hover _ fun _ => rfl]
    called := by rw [hover _ fun _ => rfl, h.called] }

lemma of_cores_eq (h : m.AddsUp calls) (hc : m.counters.SameBut .uncopied n.counters)
    (ht : n.topology = m.topology) (hcores : n.cores = m.cores) : n.AddsUp calls :=
  h.of_same hc ht (by rw [hcores])

/-- One copy is written with the other. -/
lemma sum_step (h : a = wrap64 (m.sumOver p)) (hcpu : cpu < m.cores.size)
    (hf : ∀ c, p (f c).stats = wrap64 (p c.stats + x)) :
    wrap64 (a + x) = wrap64 ((m.modifyCore cpu f).sumOver p) := by
  rw [h, wrap64_wrap64_add, m.wrap64_sumOver_modifyCore hcpu hf]

/-- Neither copy is written. -/
lemma sum_keep (h : a = wrap64 (m.sumOver p)) (hf : ∀ c, p (f c).stats = p c.stats) :
    a = wrap64 ((m.modifyCore cpu f).sumOver p) := by
  rw [h, sumOver, sumOver, m.overCores_modifyCore_eq hf]

lemma called_keep (h : m.overCores p = calls) (hf : ∀ c, p (f c).stats = p c.stats) :
    (m.modifyCore cpu f).overCores p = calls :=
  (m.overCores_modifyCore_eq hf).trans h

lemma largest_keep (h : a = m.largest p) (hf : ∀ c, p (f c).stats = p c.stats) :
    a = (m.modifyCore cpu f).largest p := by
  rw [h, largest, largest, m.overCores_modifyCore_eq hf]

/-! ### Waiting -/

lemma bump (h : m.AddsUp calls) {k : Counter} (hk : CounterSet.uncopied k = true) :
    (m.bump k).AddsUp calls :=
  h.of_cores_eq ((Counters.SameBut.refl _ _).bump hk) rfl rfl

lemma countEnqueue (h : m.AddsUp calls) (hcpu : task.cpu < m.cores.size) :
    (m.countEnqueue task).AddsUp calls where
  size := (m.bump .enqueued).size_modifyCore _ _ |>.trans h.size
  enqueued := (Counters.get_bump_self _ _).trans (sum_step h.enqueued hcpu fun _ => rfl)
  gaming := (Counters.get_bump_of_ne _ (by decide)).trans (sum_keep h.gaming fun _ => rfl)
  waits := (Counters.get_bump_of_ne _ (by decide)).trans (sum_keep h.waits fun _ => rfl)
  waited := (Counters.get_bump_of_ne _ (by decide)).trans (sum_keep h.waited fun _ => rfl)
  longest := (Counters.get_bump_of_ne _ (by decide)).trans (largest_keep h.longest fun _ => rfl)
  called := called_keep h.called fun _ => rfl

lemma countGamingEnqueue (h : m.AddsUp calls) (hcpu : task.cpu < m.cores.size) :
    (m.countGamingEnqueue task).AddsUp calls where
  size := (m.bump .gamingEnqueued).size_modifyCore _ _ |>.trans h.size
  enqueued := (Counters.get_bump_of_ne _ (by decide)).trans (sum_keep h.enqueued fun _ => rfl)
  gaming := (Counters.get_bump_self _ _).trans (sum_step h.gaming hcpu fun _ => rfl)
  waits := (Counters.get_bump_of_ne _ (by decide)).trans (sum_keep h.waits fun _ => rfl)
  waited := (Counters.get_bump_of_ne _ (by decide)).trans (sum_keep h.waited fun _ => rfl)
  longest := (Counters.get_bump_of_ne _ (by decide)).trans (largest_keep h.longest fun _ => rfl)
  called := called_keep h.called fun _ => rfl

lemma attend (h : m.AddsUp calls) (hcpu : task.cpu < m.cores.size) (flags : TaskFlags) :
    (m.attend task flags).AddsUp calls := by
  have hgaming := h.countGamingEnqueue hcpu
  unfold Machine.attend
  dsimp only
  split
  · split
    · unfold kickVictim
      split
      · exact hgaming
      · exact hgaming.of_cores_eq ((Counters.SameBut.refl _ _).bump rfl) rfl rfl
    · exact hgaming
  · split
    · exact h.bump rfl
    · exact h

/-- A core calls for a task. -/
lemma countCall (h : m.AddsUp calls) (cpu : Nat) :
    (m.countCall cpu).AddsUp (calls.modify cpu fun k => wrap64 (k + 1)) where
  size := (m.size_modifyCore _ _).trans h.size
  enqueued := sum_keep h.enqueued fun _ => rfl
  gaming := sum_keep h.gaming fun _ => rfl
  waits := sum_keep h.waits fun _ => rfl
  waited := sum_keep h.waited fun _ => rfl
  longest := largest_keep h.longest fun _ => rfl
  called := h.called ▸ m.overCores_modifyCore (g := fun k => wrap64 (k + 1)) fun _ => rfl

end Machine.AddsUp

namespace Counters

variable (c : Counters) (latency : Nat)

lemma latencyCount_wait :
    (c.wait latency).get .latencyCount = wrap64 (c.get .latencyCount + 1) := by
  rw [wait, lower, raise, Ledger.get_set_of_ne _ _ (by decide), Ledger.get_set_of_ne _ _ (by decide),
    get_bump_self, get_add_of_ne _ _ (by decide)]

lemma latencySumNs_wait :
    (c.wait latency).get .latencySumNs = wrap64 (c.get .latencySumNs + latency) := by
  rw [wait, lower, raise, Ledger.get_set_of_ne _ _ (by decide), Ledger.get_set_of_ne _ _ (by decide),
    get_bump_of_ne _ (by decide), get_add_self]

lemma latencyMaxNs_wait :
    (c.wait latency).get .latencyMaxNs = max (c.get .latencyMaxNs) latency := by
  rw [wait, lower, Ledger.get_set_of_ne _ _ (by decide), raise, Ledger.get_set_self,
    get_bump_of_ne _ (by decide), get_add_of_ne _ _ (by decide)]

lemma sameBut_waitGaming : c.SameBut .uncopied (c.waitGaming latency) :=
  ((((SameBut.refl _ c).add rfl _).bump rfl).add rfl _).bumpIf rfl _

end Counters

namespace Machine.AddsUp

variable {m : Machine} {task : Task} {calls : List Nat}

/-! ### Running -/

lemma wait (h : m.AddsUp calls) (hcpu : task.cpu < m.cores.size) (latency : Nat) :
    (Machine.modifyCore { m with counters := m.counters.wait latency } task.cpu fun c =>
      { c with stats := c.stats.wait latency }).AddsUp calls where
  size := (Machine.size_modifyCore _ _ _).trans h.size
  enqueued := ((Counters.SameBut.refl .accounting _).wait latency _ rfl).trans
    (sum_keep h.enqueued fun _ => rfl)
  gaming := ((Counters.SameBut.refl .accounting _).wait latency _ rfl).trans
    (sum_keep h.gaming fun _ => rfl)
  waits := (m.counters.latencyCount_wait latency).trans (sum_step h.waits hcpu fun _ => rfl)
  waited := (m.counters.latencySumNs_wait latency).trans (sum_step h.waited hcpu fun _ => rfl)
  longest := by
    refine (m.counters.latencyMaxNs_wait latency).trans ?_
    rw [h.longest]
    exact (largest_modifyCore { m with counters := m.counters.wait latency } hcpu
      fun _ => rfl).symm
  called := called_keep h.called fun _ => rfl

lemma accountWait (h : m.AddsUp calls) (hcpu : task.cpu < m.cores.size) (gaming : Bool)
    (latency : Nat) : (m.accountWait task gaming latency).AddsUp calls := by
  have hwait := h.wait hcpu latency
  unfold Machine.accountWait
  dsimp only
  split
  · split
    · exact hwait.of_cores_eq (Counters.sameBut_waitGaming _ latency) rfl rfl
    · exact hwait.of_cores_eq (Counters.sameBut_waitGaming _ latency) rfl rfl
  · exact hwait

/-- What changes of a core is not counted. -/
lemma modifyCore_eq (h : m.AddsUp calls) (cpu : Nat) {f : CoreState → CoreState}
    (hf : ∀ c, (f c).counted = c.counted) : (m.modifyCore cpu f).AddsUp calls :=
  h.of_same (.refl _ _) rfl (m.map_modifyCore_eq cpu hf)

lemma modifyLoadAt (h : m.AddsUp calls) (cpu : Nat) (f : DomainLoad → DomainLoad) :
    (m.modifyLoadAt cpu f).AddsUp calls := by
  rw [modifyLoadAt_eq]
  exact h.of_cores_eq (.refl _ _) rfl rfl

lemma beginRun (h : m.AddsUp calls) (task : Task) (urgency : Urgency) :
    (m.beginRun task urgency).AddsUp calls :=
  (h.modifyLoadAt task.cpu _).modifyCore_eq task.cpu fun _ => rfl

lemma endRun (h : m.AddsUp calls) (task : Task) (gaming : Bool) :
    (m.endRun task gaming).AddsUp calls :=
  (h.modifyLoadAt task.cpu _).modifyCore_eq task.cpu fun _ => rfl

lemma checkImbalance (h : m.AddsUp calls) : m.checkImbalance.AddsUp calls := by
  have hreport : ∀ heavy light, (m.reportImbalance heavy light).AddsUp calls := fun _ _ =>
    h.of_cores_eq ((Counters.SameBut.refl _ _).bump rfl) rfl rfl
  unfold Machine.checkImbalance
  split
  · exact h
  · split
    · exact hreport _ _
    · split
      · exact hreport _ _
      · exact h

end Machine.AddsUp

/-! ## Calls -/

namespace EngineCall

/-- The task that a call tells about. -/
def task? : EngineCall → Option Task
  | selectCpu task _ | enqueue task | running task | stopping task _ | noteProfileMatch task =>
    some task
  | _ => none

/-- Whether a core calls for a task. -/
def isDispatch : EngineCall → Bool
  | dispatch _ => true
  | _ => false

/-- How often each core called for a task, after a call of the engine. -/
def called (calls : List Nat) : EngineCall → List Nat
  | dispatch cpu => calls.modify cpu fun k => wrap64 (k + 1)
  | _ => calls

/-- The cores that call exist, so that all calls are counted, as long as there are not too many. -/
lemma sum_called {calls : List Nat} {c : EngineCall}
    (hcpu : ∀ cpu, c = .dispatch cpu → cpu < calls.length)
    (hlt : calls.sum + c.isDispatch.toNat < UInt64.size) :
    (c.called calls).sum = calls.sum + c.isDispatch.toNat := by
  cases c with
  | dispatch cpu =>
    have hcpu := hcpu cpu rfl
    have hle : calls[cpu] ≤ calls.sum := List.le_sum_of_mem (List.getElem_mem hcpu)
    have hstep := sum_modify_add (f := fun k => wrap64 (k + 1)) hcpu
    have hword : wrap64 (calls[cpu] + 1) = calls[cpu] + 1 := by
      refine wrap64_of_lt (Nat.lt_of_le_of_lt ?_ hlt)
      exact Nat.add_le_add_right hle 1
    rw [hword] at hstep
    show (calls.modify cpu _).sum = calls.sum + 1
    omega
  | _ => rfl

end EngineCall

namespace Engine

open Machine (AddsUp)

variable {e : Engine} {calls : List Nat}

/-- What is counted goes on adding up, whatever happens, as long as tasks are on cores that exist.
-/
lemma addsUp_after (h : e.toMachine.AddsUp calls) {c : EngineCall}
    (hcpu : ∀ task ∈ c.task?, task.cpu < e.topology.nrCpus) :
    (e.after c).toMachine.AddsUp (c.called calls) := by
  have hsize : ∀ task ∈ c.task?, task.cpu < e.cores.size := fun task ht => h.size ▸ hcpu task ht
  cases c with
  | selectCpu task prev =>
    obtain ⟨_, _, -, -, ho⟩ := e.outcome_selectCpu task prev
    refine h.of_cores_eq (ho.counters_sameBut.mono fun k hk => ?_) ho.topology_eq
      (e.cores_selectCpu task prev)
    cases k <;> first | rfl | cases hk
  | enqueue task =>
    have hcount := h.countEnqueue (hsize task rfl)
    rw [after, toMachine_enqueue]
    split
    · exact hcount
    · exact hcount.attend ((e.bump .enqueued).size_modifyCore _ _ ▸ hsize task rfl) _
  | dispatch cpu =>
    rw [after, toMachine_dispatch]
    split
    · exact (h.countCall cpu).bump rfl
    · exact h.countCall cpu
  | running task =>
    rw [after, toMachine_running]
    refine AddsUp.beginRun ?_ task _
    split
    · exact h
    · split
      · exact h.accountWait (hsize task rfl) _ _
      · exact h
  | stopping task runnable =>
    rw [after, toMachine_stopping]
    refine AddsUp.endRun ?_ task _
    split
    · exact h.bump rfl
    · exact h
  | tick cpu =>
    have hsample : (e.toMachine.modifyCore cpu fun c =>
        { c with perf := c.perf.sample (e.host.perfOf cpu) e.host.now }).AddsUp calls :=
      h.modifyCore_eq cpu fun _ => rfl
    rw [after, toMachine_tick]
    split
    · exact h
    · dsimp only
      split
      · exact hsample.checkImbalance
      · exact hsample
  | noteProfileMatch | taskExit | exit | readEvents | settings | knowledge | platform =>
    exact h.of_cores_eq (.refl _ _) rfl rfl

lemma addsUp_afterAll (h : e.toMachine.AddsUp calls) {cs : List EngineCall}
    (hcpu : ∀ c ∈ cs, ∀ task ∈ c.task?, task.cpu < e.topology.nrCpus) :
    (e.afterAll cs).toMachine.AddsUp (cs.foldl EngineCall.called calls) := by
  induction cs generalizing e calls with
  | nil => exact h
  | cons c cs ih =>
    rw [List.forall_mem_cons] at hcpu
    refine ih (addsUp_after h hcpu.1) ?_
    rw [topology_after]
    exact hcpu.2

/-- At most one task is handed out for each call of a core. -/
lemma dispatched_after_le (e : Engine) (c : EngineCall) :
    (e.after c).counters.get .dispatched ≤ e.counters.get .dispatched + c.isDispatch.toNat := by
  cases c with
  | selectCpu task prev =>
    obtain ⟨_, _, -, -, ho⟩ := e.outcome_selectCpu task prev
    exact (ho.counters_sameBut _ rfl).le
  | enqueue task =>
    obtain ⟨_, _, ho⟩ := e.outcome_enqueue task
    exact ((ho.counters_sameBut _ rfl).trans (Counters.get_bump_of_ne _ (by decide))).le
  | dispatch cpu =>
    rw [after, toMachine_dispatch]
    split
    · exact (Counters.get_bump_self _ _).trans_le (Nat.mod_le _ _)
    · exact Nat.le_succ _
  | running task => exact ((e.outcome_running task).counters_sameBut _ rfl).le
  | stopping task runnable => exact ((e.outcome_stopping task runnable).counters_sameBut _ rfl).le
  | tick cpu => exact ((e.outcome_tick cpu).counters_sameBut _ rfl).le
  | noteProfileMatch | taskExit | exit | readEvents | settings | knowledge | platform =>
    exact Nat.le_refl _

/-- Each call of a core is counted of the core, whether or not there is a task for it. -/
lemma dispatched_afterAll_le {cs : List EngineCall} (e : Engine)
    (hcpu : ∀ c ∈ cs, ∀ cpu, c = .dispatch cpu → cpu < calls.length)
    (hlt : calls.sum + cs.countP (·.isDispatch) < UInt64.size)
    (hle : e.counters.get .dispatched ≤ calls.sum) :
    (e.afterAll cs).counters.get .dispatched ≤ (cs.foldl EngineCall.called calls).sum := by
  induction cs generalizing e calls with
  | nil => exact hle
  | cons c cs ih =>
    rw [List.forall_mem_cons] at hcpu
    have hcount :
        (c :: cs).countP (·.isDispatch) = cs.countP (·.isDispatch) + c.isDispatch.toNat := by
      rw [List.countP_cons]
      cases c.isDispatch <;> rfl
    have hlength : (c.called calls).length = calls.length := by
      cases c with
      | dispatch cpu => exact List.length_modify _ _ _
      | _ => rfl
    have hsum := EngineCall.sum_called hcpu.1 (by omega)
    refine ih (e.after c) (hlength.symm ▸ hcpu.2) (by omega) ?_
    have hstep := e.dispatched_after_le c
    omega

/-! ## The start -/

lemma addsUp_make (t : Topology) (config : EngineConfig) (tunables : TunablesCell)
    (hints : Hints) (host : Host) :
    (Machine.make t config tunables hints host).AddsUp (List.replicate t.nrCpus 0) := by
  have hover : ∀ p : CoreStats → Nat, p {} = 0 →
      (Machine.make t config tunables hints host).overCores p = List.replicate t.nrCpus 0 := by
    intro p hp
    simp [Machine.overCores, Machine.make, hp]
  have hsum : ∀ p : CoreStats → Nat, p {} = 0 →
      0 = wrap64 ((Machine.make t config tunables hints host).sumOver p) := by
    intro p hp
    rw [Machine.sumOver, hover p hp, List.sum_replicate_nat]
    rfl
  have hlargest : ∀ n : Nat, 0 = (List.replicate n 0).foldr max 0 := by
    intro n
    induction n with
    | zero => rfl
    | succ n ih => rw [List.replicate_succ, List.foldr_cons, ← ih]; rfl
  exact {
    size := Array.size_replicate
    enqueued := hsum _ rfl
    gaming := hsum _ rfl
    waits := hsum _ rfl
    waited := hsum _ rfl
    longest := by
      rw [Machine.largest, hover _ rfl, ← hlargest]
      rfl
    called := hover _ rfl }

/-- What is counted of the cores adds up.  Whatever happens to an engine from its start on, as long
as all calls are about tasks on cores that exist: the tasks enqueued, the gaming tasks among them,
the times from enqueue to run and their lengths, counted of all together, are the sums over all
cores of what is counted of each, modulo the machine word, and the longest time is the longest of
any core. If only cores that exist call for tasks, less often than a machine word can count, then
there are no more tasks handed out than calls of all cores together. -/
theorem cores_share_counts (t : Topology) (config : EngineConfig) (tunables : TunablesCell)
    (hints : Hints) (host : Host) :
    ∃ e₀, start t config tunables hints host = .ok e₀ ∧
      ∀ calls : List EngineCall, (∀ c ∈ calls, ∀ task ∈ c.task?, task.cpu < t.nrCpus) →
        ∀ e, e₀.afterAll calls = e →
          e.counters.get .enqueued = wrap64 (e.sumOver (·.enqueued)) ∧
          e.counters.get .gamingEnqueued = wrap64 (e.sumOver (·.gamingTasks)) ∧
          e.counters.get .latencyCount = wrap64 (e.sumOver (·.latencyCount)) ∧
          e.counters.get .latencySumNs = wrap64 (e.sumOver (·.latencySum)) ∧
          e.counters.get .latencyMaxNs = e.largest (·.latencyMax) ∧
          ((∀ cpu, .dispatch cpu ∈ calls → cpu < t.nrCpus) →
            calls.countP (·.isDispatch) < UInt64.size →
              e.counters.get .dispatched ≤ e.sumOver (·.dispatched)) := by
  obtain ⟨queues, -, hstart⟩ := exists_start t config tunables hints host
  refine ⟨_, hstart, fun calls htasks e he => ?_⟩
  have h := addsUp_afterAll
    (e := ⟨.make t config tunables hints host, .ofCapacity config.taskCapacity, queues, none⟩)
    (addsUp_make t config tunables hints host) htasks
  rw [he] at h
  refine ⟨h.enqueued, h.gaming, h.waits, h.waited, h.longest, fun hcpu hcalls => ?_⟩
  rw [Machine.sumOver, h.called, ← he]
  refine dispatched_afterAll_le _ (fun c hc cpu heq => ?_) ?_ (Nat.zero_le _)
  · rw [List.length_replicate]
    exact hcpu cpu (heq ▸ hc)
  · rw [List.sum_replicate_nat, Nat.mul_zero, Nat.zero_add]
    exact hcalls

/-- A game and a compiler are enqueued from different cores and run, one of them twice; in the end a
core calls in vain. -/
def bothCores : List EngineCall :=
  let clock (now : Nat) : EngineCall := .platform { Host.ofTopology .twoDomains with now := now }
  let game : Task := { player 5 "wine64" with cpu := 1 }
  let compiler := player 3 "make"
  [clock 10, .selectCpu game 1, .enqueue game, .enqueue compiler, .dispatch 1, .dispatch 0, clock 25,
    .running game, .running compiler, clock 30, .stopping game true, .enqueue game, .dispatch 1,
    clock 37, .running game, .dispatch 0]

theorem cores_share_counts_bothCores :
    (∀ c ∈ bothCores, ∀ task ∈ c.task?, task.cpu < Topology.nrCpus .twoDomains) ∧
      ∀ e, onTwoDomains.afterAll bothCores = e →
        e.counters.get .enqueued = 3 ∧ e.overCores (·.enqueued) = [1, 2] ∧
        e.counters.get .gamingEnqueued = 2 ∧ e.counters.get .latencyCount = 3 ∧
        e.counters.get .latencySumNs = 37 ∧ e.counters.get .latencyMaxNs = 15 ∧
        e.counters.get .dispatched ≤ 4 ∧ e.overCores (·.dispatched) = [2, 2] := by
  have htasks : ∀ c ∈ bothCores, ∀ task ∈ c.task?, task.cpu < Topology.nrCpus .twoDomains := by
    decide +kernel
  refine ⟨htasks, fun e he => ?_⟩
  obtain ⟨e₀, hstart, h⟩ := cores_share_counts .twoDomains { taskCapacity := 0 } none {}
    (.ofTopology .twoDomains)
  obtain rfl : onTwoDomains = e₀ := Except.ok.inj (start_twoDomains.symm.trans hstart)
  obtain ⟨henqueued, hgaming, hwaits, hwaited, hlongest, hdispatched⟩ := h bothCores htasks e he
  subst he
  have hcpu : ∀ cpu, .dispatch cpu ∈ bothCores → cpu < Topology.nrCpus .twoDomains := by
    intro cpu hcpu
    have hcpu : cpu = 1 ∨ cpu = 0 ∨ cpu = 1 ∨ cpu = 0 := by simpa [bothCores] using hcpu
    rcases hcpu with rfl | rfl | rfl | rfl <;> decide
  refine ⟨henqueued.trans ?_, ?_, hgaming.trans ?_, hwaits.trans ?_, hwaited.trans ?_,
    hlongest.trans ?_, (hdispatched hcpu (by decide)).trans ?_, ?_⟩
  all_goals decide +kernel

end Engine

end CoreSteer
