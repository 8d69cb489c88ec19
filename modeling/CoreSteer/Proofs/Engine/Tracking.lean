import CoreSteer.Proofs.Engine.Findings
/-!
# Which tasks are tracked

A call is about one task at most, and leaves alone what is remembered of all others.  A task comes to
be tracked when it wakes up or has to wait, and is forgotten when it is gone.
-/
namespace CoreSteer

namespace EngineCall

/-- The task that a call is about. -/
def pid? : EngineCall → Option Nat
  | selectCpu task _ => some task.pid
  | enqueue task => some task.pid
  | running task => some task.pid
  | stopping task _ => some task.pid
  | taskExit pid => some pid
  | _ => none

/-- The task that a call may bring to be tracked. -/
def tracks? : EngineCall → Option Nat
  | selectCpu task _ => some task.pid
  | enqueue task => some task.pid
  | _ => none

end EngineCall

/-- A table holds no more tasks than a list that has all of them. -/
lemma TaskTable.Sound.count_le {t : TaskTable} (h : t.Sound) (pids : List Nat)
    (hall : ∀ pid, (t.get? pid).isSome → pid ∈ pids) : t.count ≤ pids.length := by
  obtain ⟨m, hm⟩ := h
  obtain ⟨tracked, hnodup, hmem, hcount⟩ := hm.count
  rw [← hcount]
  -- the count is the length of a list of the tracked ids without repetition, so it is enough that
  -- this list is contained in the other one
  refine (List.subperm_of_subset hnodup fun pid hpid => hall pid ?_).length_le
  rw [hm.get?_eq, Option.isSome_map]
  exact (hmem pid).1 hpid

namespace Engine

variable {e : Engine} {pid : Nat} {c : EngineCall}

/-- A call leaves alone what is remembered of the tasks that it is not about. -/
lemma task?_after_of_ne (h : e.tasks.Sound) (hc : c.pid? ≠ some pid) :
    (e.after c).task? pid = e.task? pid := by
  have hkept : ∀ {tasks : TaskTable}, (e.after c).tasks = tasks →
      tasks.get? pid = e.tasks.get? pid → (e.after c).task? pid = e.task? pid := by
    intro tasks ht hget
    rw [task?, task?, ht, hget]
  cases c with
  | selectCpu task prev =>
    obtain ⟨_, _, _, -, -, hrevised, hr⟩ := e.result_selectCpu task prev
    exact hkept hr.tasks_eq ((h.revised hrevised).2 pid fun hp => hc (congrArg some hp.symm))
  | enqueue task =>
    obtain ⟨_, _, _, hrevised, hr⟩ := e.result_enqueue task
    exact hkept hr.tasks_eq ((h.revised hrevised).2 pid fun hp => hc (congrArg some hp.symm))
  | dispatch cpu =>
    rcases hp : e.queues.popFirst? (drainOrder e.topology cpu) with _ | ⟨w, queues⟩
    · exact hkept (e.result_dispatch_none hp).2.tasks_eq rfl
    · exact hkept (e.result_dispatch_some hp).2.tasks_eq rfl
  | running task =>
    exact (task?_of_modify h (e.result_running task).tasks_eq).2 pid
      fun hp => hc (congrArg some hp.symm)
  | stopping task runnable =>
    exact (task?_of_modify h (e.result_stopping task runnable).tasks_eq).2 pid
      fun hp => hc (congrArg some hp.symm)
  | tick cpu => exact hkept (e.result_tick cpu).tasks_eq rfl
  | taskExit p =>
    exact hkept (e.result_taskExit p).tasks_eq
      ((h.remove p).2 pid fun hp => hc (congrArg some hp.symm))
  | noteProfileMatch | exit | readEvents | settings | knowledge | platform => rfl

lemma task?_taskExit_self (h : e.tasks.Sound) (pid : Nat) : (e.taskExit pid).task? pid = none := by
  rw [task?, (e.result_taskExit pid).tasks_eq, h.get?_remove_self]

/-- Whoever is tracked after a call was tracked before, or the call brings it. -/
theorem tracked_of_after (h : e.tasks.Sound) (hp : ((e.after c).task? pid).isSome) :
    (e.task? pid).isSome ∨ c.tracks? = some pid := by
  by_cases hc : c.pid? = some pid
  · cases c with
    | selectCpu | enqueue => exact .inr hc
    | running task =>
      obtain rfl : task.pid = pid := Option.some.inj hc
      rw [after, (task?_of_modify h (e.result_running task).tasks_eq).1, Option.isSome_map] at hp
      exact .inl hp
    | stopping task runnable =>
      obtain rfl : task.pid = pid := Option.some.inj hc
      rw [after, (task?_of_modify h (e.result_stopping task runnable).tasks_eq).1,
        Option.isSome_map] at hp
      exact .inl hp
    | taskExit p =>
      obtain rfl : p = pid := Option.some.inj hc
      rw [after, task?_taskExit_self h] at hp
      cases hp
    | _ => cases hc
  · rw [task?_after_of_ne h hc] at hp
    exact .inl hp

end Engine

end CoreSteer
