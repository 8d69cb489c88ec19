import CoreSteer.Task.Basic
import CoreSteer.Word
/-!
# Bursts

A burst is the time that a task has run since it last blocked.  Tasks with short bursts are
interactive; the burst also gives the key by which tasks queue.
-/
namespace CoreSteer

/-- Short bursts make a task interactive; a gaming task is never tested. -/
def isInteractive (gaming : Bool) (burst threshold : Nat) : Bool :=
  !gaming && decide (burst < threshold)

/-- The key by which a task queues: the lower it is, the sooner the task runs.  A burst weighs ten
times as much where the task is not interactive. -/
def queueKey (gaming interactive : Bool) (burst : Nat) : Nat :=
  if gaming then 0 else if interactive then burst / 1000 else burst / 100

namespace TaskState

/-- A run ends.  A task that could go on adds the run to its burst, and one that blocks starts
over; either way the run is counted once. -/
def stop (s : TaskState) (now : Nat) (runnable : Bool) : TaskState :=
  { s with
    lastRunAt := 0
    burst :=
      if runnable then
        if 0 < s.lastRunAt ∧ s.lastRunAt < now then wrap64 (s.burst + (now - s.lastRunAt))
        else s.burst
      else 0 }

end TaskState

end CoreSteer
