import CoreSteer.Proofs.Engine.Gains
import CoreSteer.Proofs.Engine.Interrupting
import CoreSteer.Proofs.Engine.Shares
import CoreSteer.Proofs.Engine.Tracking
/-!
# What is counted of waits

A task waits from when it was last enqueued until it begins to run.  The engine keeps when that was
with what it remembers of the task, where zero stands for no time: it is written when the task is
enqueued, and wiped out when the task runs and when its place is given to another task.

A `WaitLog` is the history beside the engine, which reads none of this: when each task was enqueued
that has not run since, and all waits up to now.  The invariant `WaitLog.Agrees` says that what is
remembered of a task is what the history has of it, and `WaitLog.Counted` that what is counted is
what there is to count: how many waits there were, their sum, the longest, the shortest that is not
zero, and the same for gaming tasks.
-/
namespace CoreSteer

/-! ## The longest and the shortest -/

/-- The longest of some times; zero if there are none. -/
def longest (times : List Nat) : Nat := times.max?.getD 0

/-- The shortest of some times, leaving out those that are zero; zero if there are none. -/
def shortest (times : List Nat) : Nat := (times.filter (0 < ·)).min?.getD 0

lemma longest_concat (times : List Nat) (n : Nat) :
    longest (times ++ [n]) = max (longest times) n := by
  unfold longest
  cases times with
  | nil => simp
  | cons x xs =>
    rw [List.cons_append, List.max?_cons', List.max?_cons', List.foldl_append]
    rfl

lemma shortest_concat (times : List Nat) (n : Nat) :
    shortest (times ++ [n]) = Counters.lesser (shortest times) n := by
  unfold shortest Counters.lesser
  rw [List.filter_append]
  rcases Nat.eq_zero_or_pos n with rfl | hn
  · simp
  · have hlast : [n].filter (0 < ·) = [n] := by simp [hn]
    rw [hlast, if_neg hn.ne']
    rcases hpos : times.filter (0 < ·) with _ | ⟨x, xs⟩ <;> rw [hpos]
    · simp
    · -- none of those that are left is zero
      have hmin : (x :: xs).min? = some (xs.foldl min x) := List.min?_cons'
      have hne : 0 < xs.foldl min x := by
        have hmem := List.min?_mem hmin
        rw [← hpos] at hmem
        simpa using (List.mem_filter.1 hmem).2
      have hconcat : (x :: xs ++ [n]).min? = some (min (xs.foldl min x) n) := by
        rw [List.cons_append, List.min?_cons', List.foldl_append]
        rfl
      rw [hconcat, hmin, Option.getD_some, Option.getD_some]
      split <;> omega

/-! ## The history -/

/-- A task waited, from when it was enqueued until it began to run. -/
structure Wait where
  /-- How long. -/
  latency : Nat
  /-- Whether the task counted as gaming then. -/
  gaming : Bool
deriving DecidableEq

/-- The history of waits. -/
structure WaitLog where
  /-- How many tasks were enqueued. -/
  enqueues : Nat := 0
  /-- When each task was last enqueued, if it has not run since. -/
  since : Std.ExtTreeMap Nat Nat := ∅
  /-- All waits up to now. -/
  waits : List Wait := []

namespace Engine

/-- Whether a call brings a task to be tracked. -/
def brings (e : Engine) (c : EngineCall) (pid : Nat) : Bool :=
  (e.task? pid).isNone && ((e.after c).task? pid).isSome

end Engine

namespace WaitLog

/-- How long all tasks waited. -/
def latencies (log : WaitLog) : List Nat := log.waits.map (·.latency)

/-- How long gaming tasks waited. -/
def gamingLatencies (log : WaitLog) : List Nat := (log.waits.filter (·.gaming)).map (·.latency)

/-- The wait that ends when a task begins to run: there is one if the task was enqueued and has not run
since, unless the clock was at zero then.  If the clock went back it is no time long. -/
def ending (log : WaitLog) (pid now : Nat) (gaming : Bool) : List Wait :=
  match log.since[pid]? with
  | none => []
  | some t => if 0 < t then [⟨now - t, gaming⟩] else []

/-- The history after a call.  Of a task that comes to be tracked anew it is forgotten that it was
enqueued before; a task that is not tracked does not wait. -/
def note (log : WaitLog) (e : Engine) : EngineCall → WaitLog
  | .selectCpu task prev =>
    if e.brings (.selectCpu task prev) task.pid then
      { log with since := log.since.erase task.pid }
    else log
  | .enqueue task =>
    { log with
      enqueues := log.enqueues + 1
      since := log.since.insert task.pid e.host.now }
  | .running task =>
    match e.task? task.pid with
    | none => log
    | some s =>
      { log with
        since := log.since.erase task.pid
        waits := log.waits ++ log.ending task.pid e.host.now s.flags.gaming }
  | _ => log

/-- The history after calls in order. -/
def noteAll (log : WaitLog) (e : Engine) : List EngineCall → WaitLog
  | [] => log
  | c :: cs => (log.note e c).noteAll (e.after c) cs

/-! ### At most one wait for each time a task is enqueued -/

/-- The waits that ended and those that may still end are no more than the times a task was
enqueued. -/
def Bounded (log : WaitLog) : Prop := log.waits.length + log.since.size ≤ log.enqueues

lemma length_ending_le (log : WaitLog) (pid now : Nat) (gaming : Bool) :
    (log.ending pid now gaming).length + (log.since.erase pid).size ≤ log.since.size := by
  unfold ending
  rw [Std.ExtTreeMap.size_erase, Std.ExtTreeMap.contains_eq_isSome_getElem?]
  rcases hsince : log.since[pid]? with _ | t
  · simp
  · have hsize : log.since.size ≠ 0 := by
      intro hzero
      rw [Std.ExtTreeMap.eq_empty_iff_size_eq_zero.2 hzero] at hsince
      simp at hsince
    rw [Option.isSome_some, if_pos rfl]
    dsimp only
    split
    · rw [List.length_singleton]
      omega
    · rw [List.length_nil]
      omega

lemma Bounded.note {log : WaitLog} (h : log.Bounded) (e : Engine) (c : EngineCall) :
    (log.note e c).Bounded := by
  unfold Bounded at h ⊢
  cases c with
  | selectCpu task prev =>
    rw [WaitLog.note]
    split
    · have herase : (log.since.erase task.pid).size ≤ log.since.size := Std.ExtTreeMap.size_erase_le
      dsimp only
      omega
    · exact h
  | enqueue task =>
    have hinsert : (log.since.insert task.pid e.host.now).size ≤ log.since.size + 1 :=
      Std.ExtTreeMap.size_insert_le
    rw [WaitLog.note]
    dsimp only
    omega
  | running task =>
    rw [WaitLog.note]
    split
    · exact h
    · next s hs =>
      have hending := log.length_ending_le task.pid e.host.now s.flags.gaming
      dsimp only
      rw [List.length_append]
      omega
  | _ => exact h

/-! ### What is counted -/

/-- What is counted of waits is what there is to count. -/
structure Counted (log : WaitLog) (c : Counters) : Prop where
  /-- How many tasks were enqueued. -/
  enqueued : c.get .enqueued = wrap64 log.enqueues
  /-- How many waits there were. -/
  count : c.get .latencyCount = wrap64 log.latencies.length
  /-- How long they were together. -/
  sum : c.get .latencySumNs = wrap64 log.latencies.sum
  /-- How long the longest was. -/
  longest : c.get .latencyMaxNs = longest log.latencies
  /-- How long the shortest was, but for those of no time. -/
  shortest : c.get .latencyMinNs = shortest log.latencies
  /-- How many waits of gaming tasks there were. -/
  gamingCount : c.get .gamingLatencyCount = wrap64 log.gamingLatencies.length
  /-- How long these were together. -/
  gamingSum : c.get .gamingLatencySumNs = wrap64 log.gamingLatencies.sum
  /-- How many of these were late. -/
  late : c.get .gamingLateFrames = wrap64 (log.gamingLatencies.countP (lateFrame < ·))

end WaitLog

/-! ## Counting a wait -/

/-- The counters that count neither tasks enqueued nor waits. -/
def CounterSet.unwaited : CounterSet
  | .enqueued | .latencyCount | .latencySumNs | .latencyMaxNs | .latencyMinNs | .gamingLatencyCount
  | .gamingLatencySumNs | .gamingLateFrames => false
  | _ => true

/-- The counters that count waits of all tasks. -/
def CounterSet.ofAll : CounterSet
  | .latencyCount | .latencySumNs | .latencyMaxNs | .latencyMinNs => true
  | _ => false

/-- The counters that count waits of gaming tasks. -/
def CounterSet.ofGaming : CounterSet
  | .gamingLatencyCount | .gamingLatencySumNs | .gamingLatencySumSqUs | .gamingLateFrames => true
  | _ => false

namespace Counters

variable (c : Counters) (latency : Nat)

/-- Count a wait. -/
def account (c : Counters) (w : Wait) : Counters :=
  if w.gaming then (c.wait w.latency).waitGaming w.latency else c.wait w.latency

lemma sameBut_ofAll_wait : c.SameBut .ofAll (c.wait latency) :=
  ((((SameBut.refl _ c).add rfl _).bump rfl).set rfl _).set rfl _

lemma sameBut_ofGaming_waitGaming : c.SameBut .ofGaming (c.waitGaming latency) :=
  ((((SameBut.refl _ c).add rfl _).bump rfl).add rfl _).bumpIf rfl _

lemma latencyMinNs_wait :
    (c.wait latency).get .latencyMinNs = lesser (c.get .latencyMinNs) latency := by
  rw [wait, lower, Ledger.get_set_self, raise, Ledger.get_set_of_ne _ _ (by decide),
    get_bump_of_ne _ (by decide), get_add_of_ne _ _ (by decide)]

lemma gamingLatencyCount_waitGaming :
    (c.waitGaming latency).get .gamingLatencyCount = wrap64 (c.get .gamingLatencyCount + 1) := by
  rw [waitGaming, get_bumpIf_of_ne _ _ (by decide), get_add_of_ne _ _ (by decide), get_bump_self,
    get_add_of_ne _ _ (by decide)]

lemma gamingLatencySumNs_waitGaming :
    (c.waitGaming latency).get .gamingLatencySumNs =
      wrap64 (c.get .gamingLatencySumNs + latency) := by
  rw [waitGaming, get_bumpIf_of_ne _ _ (by decide), get_add_of_ne _ _ (by decide),
    get_bump_of_ne _ (by decide), get_add_self]

lemma gamingLateFrames_waitGaming :
    (c.waitGaming latency).get .gamingLateFrames =
      if lateFrame < latency then wrap64 (c.get .gamingLateFrames + 1)
      else c.get .gamingLateFrames := by
  have hrest : (((c.add .gamingLatencySumNs latency).bump .gamingLatencyCount).add
      .gamingLatencySumSqUs (saturate64 (latency / 1000 * (latency / 1000)))).get .gamingLateFrames =
        c.get .gamingLateFrames := by
    rw [get_add_of_ne _ _ (by decide), get_bump_of_ne _ (by decide), get_add_of_ne _ _ (by decide)]
  rw [waitGaming, bumpIf]
  by_cases hlate : lateFrame < latency
  · rw [if_pos (decide_eq_true hlate), if_pos hlate, get_bump_self, hrest]
  · rw [if_neg (by simpa using hlate), if_neg hlate, hrest]

/-- For a gaming task more is counted, but no more of all tasks. -/
lemma sameBut_ofGaming_account (w : Wait) : (c.wait w.latency).SameBut .ofGaming (c.account w) := by
  unfold account
  split
  · exact sameBut_ofGaming_waitGaming _ _
  · exact .refl _ _

end Counters

namespace WaitLog

lemma latencies_concat (log : WaitLog) (w : Wait) :
    latencies { log with waits := log.waits ++ [w] } = log.latencies ++ [w.latency] :=
  List.map_append

lemma gamingLatencies_concat (log : WaitLog) (w : Wait) :
    gamingLatencies { log with waits := log.waits ++ [w] } =
      log.gamingLatencies ++ if w.gaming then [w.latency] else [] := by
  unfold gamingLatencies
  rw [List.filter_append, List.map_append]
  cases hw : w.gaming <;> simp [hw]

namespace Counted

variable {log : WaitLog} {c d : Counters}

/-- Whatever else is counted does not matter. -/
lemma of_sameBut (h : log.Counted c) (hd : c.SameBut .unwaited d) : log.Counted d where
  enqueued := (hd _ rfl).trans h.enqueued
  count := (hd _ rfl).trans h.count
  sum := (hd _ rfl).trans h.sum
  longest := (hd _ rfl).trans h.longest
  shortest := (hd _ rfl).trans h.shortest
  gamingCount := (hd _ rfl).trans h.gamingCount
  gamingSum := (hd _ rfl).trans h.gamingSum
  late := (hd _ rfl).trans h.late

/-- What is counted does not depend on who waits now. -/
lemma of_since (h : log.Counted c) (since : Std.ExtTreeMap Nat Nat) :
    Counted { log with since := since } c :=
  ⟨h.enqueued, h.count, h.sum, h.longest, h.shortest, h.gamingCount, h.gamingSum, h.late⟩

/-- One more wait is counted for gaming tasks, if it is that of one. -/
lemma account_gaming (h : log.Counted c) (w : Wait) :
    (c.account w).get .gamingLatencyCount =
        wrap64 (gamingLatencies { log with waits := log.waits ++ [w] }).length ∧
      (c.account w).get .gamingLatencySumNs =
        wrap64 (gamingLatencies { log with waits := log.waits ++ [w] }).sum ∧
      (c.account w).get .gamingLateFrames = wrap64
        ((gamingLatencies { log with waits := log.waits ++ [w] }).countP (lateFrame < ·)) := by
  have hall := c.sameBut_ofAll_wait w.latency
  rw [gamingLatencies_concat, Counters.account]
  cases w.gaming with
  | false =>
    rw [if_neg Bool.false_ne_true, if_neg Bool.false_ne_true, List.append_nil]
    exact ⟨(hall _ rfl).trans h.gamingCount, (hall _ rfl).trans h.gamingSum,
      (hall _ rfl).trans h.late⟩
  | true =>
    rw [if_pos rfl, if_pos rfl, Counters.gamingLatencyCount_waitGaming,
      Counters.gamingLatencySumNs_waitGaming, Counters.gamingLateFrames_waitGaming, hall _ rfl,
      hall _ rfl, hall _ rfl, h.gamingCount, h.gamingSum, h.late, List.countP_append]
    refine ⟨by simp, by simp, ?_⟩
    by_cases hlate : lateFrame < w.latency <;> simp [hlate]

/-- One more wait is counted. -/
lemma account (h : log.Counted c) (w : Wait) :
    Counted { log with waits := log.waits ++ [w] } (c.account w) := by
  have hall := c.sameBut_ofAll_wait w.latency
  have hmore := c.sameBut_ofGaming_account w
  obtain ⟨hcount, hsum, hlate⟩ := h.account_gaming w
  refine ⟨?_, ?_, ?_, ?_, ?_, hcount, hsum, hlate⟩
  · rw [hmore _ rfl, hall _ rfl, h.enqueued]
  · rw [hmore _ rfl, c.latencyCount_wait, h.count, wrap64_wrap64_add, latencies_concat,
      List.length_append]
    rfl
  · rw [hmore _ rfl, c.latencySumNs_wait, h.sum, wrap64_wrap64_add, latencies_concat,
      List.sum_append_nat]
    rfl
  · rw [hmore _ rfl, c.latencyMaxNs_wait, h.longest, latencies_concat, longest_concat]
  · rw [hmore _ rfl, c.latencyMinNs_wait, h.shortest, latencies_concat, shortest_concat]

/-- One more task is enqueued. -/
lemma enqueue (h : log.Counted c) :
    Counted { log with enqueues := log.enqueues + 1 } (c.bump .enqueued) where
  enqueued := by rw [Counters.get_bump_self, h.enqueued, wrap64_wrap64_add]
  count := (Counters.get_bump_of_ne _ (by decide)).trans h.count
  sum := (Counters.get_bump_of_ne _ (by decide)).trans h.sum
  longest := (Counters.get_bump_of_ne _ (by decide)).trans h.longest
  shortest := (Counters.get_bump_of_ne _ (by decide)).trans h.shortest
  gamingCount := (Counters.get_bump_of_ne _ (by decide)).trans h.gamingCount
  gamingSum := (Counters.get_bump_of_ne _ (by decide)).trans h.gamingSum
  late := (Counters.get_bump_of_ne _ (by decide)).trans h.late

/-- When nothing has happened, there is nothing to count. -/
lemma zero : Counted {} .zero :=
  ⟨Ledger.get_zero _, Ledger.get_zero _, Ledger.get_zero _, Ledger.get_zero _, Ledger.get_zero _,
    Ledger.get_zero _, Ledger.get_zero _, Ledger.get_zero _⟩

end Counted

end WaitLog

/-! ## Calls -/

namespace Machine

variable (m : Machine) (task : Task)

lemma counters_accountWait (gaming : Bool) (latency : Nat) :
    (m.accountWait task gaming latency).counters = m.counters.account ⟨latency, gaming⟩ := by
  unfold accountWait Counters.account
  dsimp only
  split
  · split <;> rfl
  · rfl

/-- Comparing domains counts no wait. -/
lemma sameBut_unwaited_checkImbalance : m.counters.SameBut .unwaited m.checkImbalance.counters := by
  have hreport : ∀ heavy light, m.counters.SameBut .unwaited (m.reportImbalance heavy light).counters :=
    fun _ _ => (Counters.SameBut.refl _ _).bump rfl
  unfold checkImbalance
  split
  · exact .refl _ _
  · split
    · exact hreport _ _
    · split
      · exact hreport _ _
      · exact .refl _ _

end Machine

namespace Engine

variable {e : Engine} (task : Task)

/-- A call that neither enqueues nor begins to run a task counts no wait. -/
lemma sameBut_unwaited_after {c : EngineCall} (henqueue : ∀ task, c ≠ .enqueue task)
    (hrunning : ∀ task, c ≠ .running task) : e.counters.SameBut .unwaited (e.after c).counters := by
  cases c with
  | enqueue task => exact absurd rfl (henqueue task)
  | running task => exact absurd rfl (hrunning task)
  | selectCpu task prev =>
    obtain ⟨_, _, -, -, ho⟩ := e.outcome_selectCpu task prev
    exact ho.counters_sameBut.mono fun k hk => by cases k <;> first | rfl | cases hk
  | dispatch cpu =>
    have hm := e.toMachine_dispatch cpu
    show e.counters.SameBut .unwaited (e.dispatch cpu).2.counters
    rw [hm]
    split
    · exact (Counters.SameBut.refl _ _).bump rfl
    · exact .refl _ _
  | stopping task runnable =>
    show e.counters.SameBut .unwaited (e.stopping task runnable).counters
    rw [toMachine_stopping, Machine.counters_endRun]
    split
    · exact (Counters.SameBut.refl _ _).bump rfl
    · exact .refl _ _
  | tick cpu =>
    show e.counters.SameBut .unwaited (e.tick cpu).counters
    rw [toMachine_tick]
    dsimp only
    split
    · exact .refl _ _
    · split
      · exact Machine.sameBut_unwaited_checkImbalance _
      · exact .refl _ _
  | noteProfileMatch | taskExit | exit | readEvents | settings | knowledge | platform =>
    exact .refl _ _

/-- Enqueueing a task counts it, and no wait. -/
lemma sameBut_unwaited_enqueue :
    (e.counters.bump .enqueued).SameBut .unwaited (e.enqueue task).counters := by
  obtain ⟨_, _, ho⟩ := e.outcome_enqueue task
  exact ho.counters_sameBut.mono fun k hk => by cases k <;> first | rfl | cases hk

/-- A task that begins to run has a wait counted if it was enqueued since it last ran. -/
lemma counters_running :
    (e.running task).counters =
      match e.task? task.pid with
      | none => e.counters
      | some s =>
        if 0 < s.enqueuedAt then
          e.counters.account ⟨e.host.now - s.enqueuedAt, s.flags.gaming⟩
        else e.counters := by
  rw [toMachine_running, Machine.counters_beginRun]
  rcases e.task? task.pid with _ | s
  · rfl
  · dsimp only
    split
    · exact e.toMachine.counters_accountWait task _ _
    · rfl

/-! ### When a task was enqueued -/

lemma enqueuedAt_refresh (m : Machine) (s : TaskState) (prev : Nat) :
    (m.refresh task s prev).1.enqueuedAt = s.enqueuedAt := by
  have hclassify : (m.classify task s).2.1.enqueuedAt = s.enqueuedAt := by
    unfold Machine.classify
    split <;> rfl
  exact hclassify

/-- Waking up does not change when a task was enqueued. -/
lemma enqueuedAt_selectCpu (h : e.tasks.Sound) (prev : Nat) :
    ((e.selectCpu task prev).2.task? task.pid).map (·.enqueuedAt) =
      (e.comesWith task).map (·.enqueuedAt) := by
  rcases hs : e.woken? task prev with _ | s
  · rw [task?, tasks_selectCpu_of_not_woken? hs]
    rfl
  · rw [task?_selectCpu_of_woken? h hs, comesWith, get?_track_of_woken? hs, Option.map_some,
      Option.map_some, enqueuedAt_refresh]

/-- A task that is enqueued was enqueued now, if it is tracked. -/
lemma enqueuedAt_enqueue (h : e.tasks.Sound) {s : TaskState}
    (hs : (e.enqueue task).task? task.pid = some s) : s.enqueuedAt = e.host.now := by
  obtain ⟨-, hself, -⟩ := (h.track task.pid).1.modify task.pid fun s =>
    { s with
      enqueuedAt := e.host.now
      lastDomain := (e.topology.domainOf? task.cpu).or s.lastDomain }
  rw [task?, tasks_enqueue, hself] at hs
  obtain ⟨r, -, rfl⟩ := Option.map_eq_some_iff.1 hs
  rfl

end Engine

/-! ## The invariant -/

namespace WaitLog

/-- What is remembered of tasks, and what is counted, is what the history has. -/
structure Agrees (log : WaitLog) (e : Engine) : Prop where
  /-- The table of tracked tasks is in order. -/
  sound : e.tasks.Sound
  /-- What is remembered of a tracked task is when it was last enqueued, if it has not run since. -/
  stamps : ∀ pid s, e.task? pid = some s → s.enqueuedAt = log.since[pid]?.getD 0
  /-- What is counted is what there is to count. -/
  counted : log.Counted e.counters
  /-- There are no more waits than there may be. -/
  bounded : log.Bounded

variable {log : WaitLog} {e : Engine} {task : Task} {pid : Nat} {c : EngineCall}

/-- A call leaves the history of the tasks alone that it is not about. -/
lemma since_note_of_ne (hc : c.pid? ≠ some pid) : (log.note e c).since[pid]? = log.since[pid]? := by
  have hne : ∀ {p : Nat}, some p ≠ some pid → compare p pid ≠ .eq := fun hp heq =>
    hp (congrArg some (Nat.compare_eq_eq.1 heq))
  cases c with
  | selectCpu task prev =>
    rw [note]
    split
    · rw [Std.ExtTreeMap.getElem?_erase, if_neg (hne hc)]
    · rfl
  | enqueue task => rw [note, Std.ExtTreeMap.getElem?_insert, if_neg (hne hc)]
  | running task =>
    rw [note]
    split
    · rfl
    · rw [Std.ExtTreeMap.getElem?_erase, if_neg (hne hc)]
  | _ => rfl

/-- The wait that ends, from what is remembered of the task. -/
lemma ending_eq {stamp : Nat} (h : stamp = log.since[pid]?.getD 0) (now : Nat) (gaming : Bool) :
    log.ending pid now gaming = if 0 < stamp then [⟨now - stamp, gaming⟩] else [] := by
  unfold ending
  rcases hsince : log.since[pid]? with _ | t <;> rw [hsince] at h <;> subst h <;> rfl

namespace Agrees

/-- The wait is counted that ends when a task begins to run. -/
lemma counted_running (h : log.Agrees e) (task : Task) :
    (log.note e (.running task)).Counted (e.running task).counters := by
  rw [note, Engine.counters_running]
  rcases hs : e.task? task.pid with _ | s
  · exact h.counted
  · dsimp only
    rw [ending_eq (h.stamps task.pid s hs)]
    split
    · exact (h.counted.account _).of_since _
    · rw [List.append_nil]
      exact h.counted.of_since _

lemma counted_after (h : log.Agrees e) (c : EngineCall) :
    (log.note e c).Counted (e.after c).counters := by
  -- nothing else but the history of who waits now may change with the other calls
  have hother : (∀ task, c ≠ .enqueue task) → (∀ task, c ≠ .running task) →
      log.Counted (e.after c).counters := fun henqueue hrunning =>
    h.counted.of_sameBut (Engine.sameBut_unwaited_after henqueue hrunning)
  cases c with
  | enqueue task =>
    exact (h.counted.enqueue.of_sameBut (Engine.sameBut_unwaited_enqueue task)).of_since _
  | running task => exact h.counted_running task
  | selectCpu task prev =>
    have hcounted := hother (by simp) (by simp)
    rw [note]
    split
    · exact hcounted.of_since _
    · exact hcounted
  | _ => exact hother (by simp) (by simp)

lemma stamps_after (h : log.Agrees e) (c : EngineCall) {s : TaskState}
    (hs : (e.after c).task? pid = some s) : s.enqueuedAt = (log.note e c).since[pid]?.getD 0 := by
  by_cases hc : c.pid? = some pid
  · cases c with
    | selectCpu task prev =>
      obtain rfl : task.pid = pid := Option.some.inj hc
      have hstamp := Engine.enqueuedAt_selectCpu task h.sound prev
      rw [show (e.selectCpu task prev).2.task? task.pid = some s from hs, Option.map_some] at hstamp
      obtain ⟨r, hr, hrs⟩ := Option.map_eq_some_iff.1 hstamp.symm
      rw [← hrs, note, Engine.brings, hs]
      rcases e.comesWith_eq task h.sound with hold | ⟨hnone, hnew⟩
      · have hr : e.task? task.pid = some r := hold.symm.trans hr
        rw [hr]
        exact h.stamps task.pid r hr
      · -- the task is tracked anew
        obtain rfl : {} = r := Option.some.inj (hnew.symm.trans hr)
        rw [hnone, Option.isNone_none, Option.isSome_some, Bool.true_and, if_pos rfl,
          Std.ExtTreeMap.getElem?_erase_self]
        rfl
    | enqueue task =>
      obtain rfl : task.pid = pid := Option.some.inj hc
      rw [Engine.enqueuedAt_enqueue task h.sound hs, note, Std.ExtTreeMap.getElem?_insert_self]
      rfl
    | running task =>
      obtain rfl : task.pid = pid := Option.some.inj hc
      rw [Engine.after, (Engine.task?_of_modify h.sound (e.result_running task).tasks_eq).1] at hs
      obtain ⟨r, hr, rfl⟩ := Option.map_eq_some_iff.1 hs
      rw [note, hr, Std.ExtTreeMap.getElem?_erase_self]
      rfl
    | stopping task runnable =>
      obtain rfl : task.pid = pid := Option.some.inj hc
      rw [Engine.after,
        (Engine.task?_of_modify h.sound (e.result_stopping task runnable).tasks_eq).1] at hs
      obtain ⟨r, hr, rfl⟩ := Option.map_eq_some_iff.1 hs
      exact h.stamps task.pid r hr
    | taskExit p =>
      obtain rfl : p = pid := Option.some.inj hc
      rw [Engine.after, Engine.task?_taskExit_self h.sound] at hs
      cases hs
    | _ => cases hc
  · rw [Engine.task?_after_of_ne h.sound hc] at hs
    rw [since_note_of_ne hc]
    exact h.stamps pid s hs

lemma after (h : log.Agrees e) (c : EngineCall) : (log.note e c).Agrees (e.after c) :=
  ⟨Engine.sound_after h.sound c, fun _ _ hs => h.stamps_after c hs, h.counted_after c,
    h.bounded.note e c⟩

lemma afterAll (h : log.Agrees e) (cs : List EngineCall) :
    (log.noteAll e cs).Agrees (e.afterAll cs) := by
  induction cs generalizing e log with
  | nil => exact h
  | cons c cs ih => exact ih (h.after c)

/-- When nothing has happened, nobody has waited. -/
lemma start (t : Topology) (config : EngineConfig) (tunables : TunablesCell) (hints : Hints)
    (host : Host) (queues : DispatchQueues) :
    Agrees {} ⟨.make t config tunables hints host, .ofCapacity config.taskCapacity, queues, none⟩ where
  sound := TaskTable.sound_ofCapacity _
  stamps pid s hs := by
    rw [Engine.task?, TaskTable.get?_ofCapacity] at hs
    cases hs
  counted := .zero
  bounded := Nat.le_refl 0

end Agrees

end WaitLog

/-! ## Runs -/

namespace Engine

/-- What is counted of waits is exact.  From the start of an engine on, whatever happens to it and in
whatever order, and whatever the clock shows: the counters say how many waits there were, how long
they were together, how long the longest was, and how long the shortest was that was not over at
once, and likewise for waits of gaming tasks, and how many of these were late.  Numbers and sums are
kept in machine words.  There are no more waits than tasks enqueued, so that no number of waits wraps
around as long as that of tasks enqueued does not. -/
theorem waits_counted_exactly (t : Topology) (config : EngineConfig) (tunables : TunablesCell)
    (hints : Hints) (host : Host) :
    ∃ e₀, start t config tunables hints host = .ok e₀ ∧
      ∀ calls e, e₀.afterAll calls = e → ∀ log, WaitLog.noteAll {} e₀ calls = log →
        log.Counted e.counters ∧ log.waits.length ≤ log.enqueues ∧
          (log.enqueues < UInt64.size →
            e.counters.get .latencyCount = log.waits.length ∧
              e.counters.get .latencyCount ≤ e.counters.get .enqueued) := by
  obtain ⟨queues, -, hstart⟩ := exists_start t config tunables hints host
  refine ⟨_, hstart, fun calls e he log hlog => ?_⟩
  have h := (WaitLog.Agrees.start t config tunables hints host queues).afterAll calls
  rw [he, hlog] at h
  have hle : log.waits.length ≤ log.enqueues := (Nat.le_add_right _ _).trans h.bounded
  refine ⟨h.counted, hle, fun hlt => ?_⟩
  have hcount : e.counters.get .latencyCount = log.waits.length := by
    rw [h.counted.count, WaitLog.latencies, List.length_map, wrap64_of_lt (hle.trans_lt hlt)]
  refine ⟨hcount, ?_⟩
  rw [hcount, h.counted.enqueued, wrap64_of_lt hlt]
  exact hle

/-- The clock of the platform shows another time. -/
def clockAt (now : Nat) : EngineCall := .platform { Host.ofTopology .fourThreads with now := now }

/-- A game is enqueued while the clock is at zero, and runs; it is enqueued twice before it runs again,
late.  A shell is enqueued and runs when the clock has gone back; it is enqueued, and the process that
gets its number runs; and once more it is enqueued and runs. -/
def unsteadyClock : List EngineCall :=
  [.selectCpu (worker 5 "wine64" 0) 0, .enqueue (worker 5 "wine64" 0), clockAt 100,
    .running (worker 5 "wine64" 0), .enqueue (worker 5 "wine64" 0), clockAt 2000,
    .enqueue (worker 5 "wine64" 0), clockAt 2500000, .running (worker 5 "wine64" 0),
    .enqueue (worker 3 "bash" 1), clockAt 4000, .running (worker 3 "bash" 1),
    .enqueue (worker 3 "bash" 1), .taskExit 3, .selectCpu (worker 3 "make" 1) 1,
    .running (worker 3 "make" 1), .enqueue (worker 3 "make" 1), clockAt 4700,
    .running (worker 3 "make" 1)]

theorem waits_counted_exactly_unsteadyClock :
    ∃ log, WaitLog.noteAll {} onFourThreads unsteadyClock = log ∧
      log.waits = [⟨2498000, true⟩, ⟨0, false⟩, ⟨700, false⟩] ∧ log.enqueues = 6 ∧
      ∃ c, (onFourThreads.afterAll unsteadyClock).counters = c ∧ log.Counted c ∧
        c.get .latencyCount = 3 ∧ c.get .latencyCount ≤ c.get .enqueued ∧
        c.get .latencyMinNs = 700 ∧ c.get .gamingLateFrames = 1 := by
  obtain ⟨e₀, hstart, h⟩ := waits_counted_exactly .fourThreads { taskCapacity := 0 } none {}
    (.ofTopology .fourThreads)
  obtain rfl : onFourThreads = e₀ := Except.ok.inj (start_fourThreads.symm.trans hstart)
  obtain ⟨hwaits, henqueues⟩ : (WaitLog.noteAll {} onFourThreads unsteadyClock).waits =
        [⟨2498000, true⟩, ⟨0, false⟩, ⟨700, false⟩] ∧
      (WaitLog.noteAll {} onFourThreads unsteadyClock).enqueues = 6 := by
    decide +kernel
  obtain ⟨hcounted, -, hexact⟩ := h unsteadyClock _ rfl _ rfl
  obtain ⟨hcount, hle⟩ := hexact (by rw [henqueues]; decide)
  rw [hwaits] at hcount
  refine ⟨_, rfl, hwaits, henqueues, _, rfl, hcounted, hcount, hle, ?_, ?_⟩
  · rw [hcounted.shortest, WaitLog.latencies, hwaits]
    decide
  · rw [hcounted.late, WaitLog.gamingLatencies, hwaits]
    decide

end Engine

end CoreSteer
