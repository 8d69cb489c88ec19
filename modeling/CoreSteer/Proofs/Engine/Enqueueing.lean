import CoreSteer.Proofs.Engine.Observers
/-!
# What a task comes to when it is enqueued

Of what is remembered of a task its flags and its burst decide where it waits, under which key, and
what is counted and kicked for it.  Enqueueing derives no flag and measures nothing: it takes them as
they were left.
-/
namespace CoreSteer

lemma Counters.get_bumpIf_of_ne (c : Counters) (b : Bool) {j k : Counter} (h : j ≠ k) :
    (c.bumpIf b k).get j = c.get j := by
  unfold bumpIf
  split
  · exact get_bump_of_ne c h
  · rfl

namespace Machine

variable (m : Machine) (task : Task)

/-- A task that does not want low latency waits where a task waits that is not tracked. -/
lemma queueFor_eq_plainQueue {s : TaskState} (h : s.flags.wantsLowLatency = false) :
    m.queueFor task s = m.plainQueue task := by
  unfold queueFor plainQueue
  rw [h]
  rfl

/-- Nobody gives way to a task that does not count as gaming, and it is counted only if it counts as
interactive. -/
lemma attend_of_not_gaming {flags : TaskFlags} (h : flags.gaming = false) :
    m.attend task flags =
      { m with counters := m.counters.bumpIf flags.interactive .interactiveEnqueued } := by
  unfold attend
  rw [h]
  cases flags.interactive <;> rfl

end Machine

namespace Engine

variable (e : Engine) (task : Task)

/-- What is remembered of a task that is enqueued now. -/
def comesWith (e : Engine) (task : Task) : Option TaskState :=
  (e.tasks.track task.pid).get? task.pid

/-- The queue for a task that is enqueued now. -/
def queueOf (e : Engine) (task : Task) : QueueId :=
  match e.comesWith task with
  | none => e.plainQueue task
  | some s => e.queueFor task s

lemma queues_enqueue_eq :
    (e.enqueue task).queues =
      e.queues.insert (e.queueOf task) task.pid e.tunables.load.slice (e.keyFor task) := by
  rcases e with ⟨m, tasks, queues, reason⟩
  unfold enqueue queueOf keyFor comesWith
  dsimp only [onMachine, onTasks, task?]
  rcases (tasks.track task.pid).get? task.pid with _ | s
  · rfl
  · obtain ⟨_, _, _, _, -, -, hm⟩ := attend_eq (m.countEnqueue task) task s.flags
    dsimp only
    rw [hm]
    rfl

/-- A task that is tracked is remembered as it is, and any other one that comes to be tracked is
one of which nothing is known. -/
lemma comesWith_eq (h : e.tasks.Sound) :
    e.comesWith task = e.task? task.pid ∨
      e.task? task.pid = none ∧ e.comesWith task = some {} :=
  h.get?_track_self task.pid

/-- A task that is tracked is remembered as it is when it is enqueued. -/
lemma comesWith_of_task? {s : TaskState} (h : e.tasks.Sound) (hs : e.task? task.pid = some s) :
    e.comesWith task = some s := by
  rcases e.comesWith_eq task h with hold | ⟨hnone, -⟩
  · rw [hold, hs]
  · rw [hnone] at hs
    cases hs

/-- A task that comes to be tracked does not count as gaming. -/
lemma isGaming_comesWith (h : e.tasks.Sound) :
    TaskState.isGaming (e.comesWith task) = TaskState.isGaming (e.task? task.pid) := by
  rcases e.comesWith_eq task h with hold | ⟨hnone, hnew⟩
  · rw [hold]
  · rw [hnone, hnew]
    rfl

lemma keyFor_of_comesWith {s : TaskState} (hs : e.comesWith task = some s) :
    e.keyFor task = queueKey s.flags.gaming s.flags.interactive s.burst := by
  unfold comesWith at hs
  unfold keyFor
  rw [hs]

/-- Enqueueing a task that does not count as gaming kicks nobody, and counts the task, once more if it
counts as interactive. -/
lemma enqueue_of_not_gaming (h : TaskState.isGaming (e.comesWith task) = false) :
    (e.enqueue task).host = e.host ∧
      (e.enqueue task).counters = (e.counters.bump .enqueued).bumpIf
        ((e.comesWith task).any (·.flags.interactive)) .interactiveEnqueued := by
  have hm := e.toMachine_enqueue task
  unfold comesWith at h ⊢
  rcases ht : (e.tasks.track task.pid).get? task.pid with _ | s <;> rw [ht] at hm h
  · rw [hm]
    exact ⟨rfl, rfl⟩
  · have hplain : s.flags.gaming = false := h
    dsimp only at hm
    rw [hm, Machine.attend_of_not_gaming _ _ hplain]
    exact ⟨rfl, rfl⟩

/-- Enqueueing a task that does not count as gaming leaves all other counters as they are. -/
lemma get_counters_enqueue_of_not_gaming (h : TaskState.isGaming (e.comesWith task) = false)
    {k : Counter} (hk : k ≠ .enqueued) (hk' : k ≠ .interactiveEnqueued) :
    (e.enqueue task).counters.get k = e.counters.get k := by
  rw [(e.enqueue_of_not_gaming task h).2, Counters.get_bumpIf_of_ne _ _ hk',
    Counters.get_bump_of_ne _ hk]

end Engine

end CoreSteer
