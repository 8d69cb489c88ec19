import CoreSteer.Proofs.Engine.Findings
import CoreSteer.Proofs.Engine.Occupancy
import CoreSteer.Proofs.Machine.Yielding
/-!
# Who kicks whom

Only the enqueueing of a task kicks cores, and it kicks one at most.  The task that is enqueued is
gaming then, and the task that runs on the core that is kicked is not.  Since nothing writes the
findings about a task while it runs (`urgency_after`), that task is still not gaming when it gives
way and is enqueued in turn, so that it kicks nobody.
-/
namespace CoreSteer

namespace TaskState

/-- How urgent a task is depends on the findings about it only, and a task without findings does
batch work. -/
lemma urgency_eq_of_findings {s s' : Option TaskState}
    (h : s.map (·.findings) = s'.map (·.findings)) : urgency s = urgency s' := by
  cases s with
  | none =>
    cases s' with
    | none => rfl
    | some s' => cases h
  | some s =>
    cases s' with
    | none => cases h
    | some s' =>
      have hflags : s.flags = s'.flags := congrArg Findings.flags (Option.some.inj h)
      simp only [urgency, hflags]

lemma urgency_of_findings_empty {s : Option TaskState} (h : s.map (·.findings) = some {}) :
    urgency s = .batch := by
  show urgency s = urgency (some {})
  exact urgency_eq_of_findings h

lemma urgency_of_gaming {s : TaskState} (h : s.flags.gaming = true) :
    urgency (some s) = .gaming := if_pos h

end TaskState

namespace Machine

/-- The core that gives way runs something that is less urgent than the waker. -/
lemma urgencyOn?_of_victim? {m : Machine} {domain cpu : Nat} {waker : Urgency}
    (h : m.victim? domain waker = some cpu) :
    ∃ u, m.urgencyOn? cpu = some u ∧ waker.level < u.level := by
  obtain ⟨u, hyield, -⟩ := victim?_eq_some_iff.1 h
  exact ⟨u, (mayYield_iff.1 hyield).2⟩

/-- How urgent what runs on a core is depends on what runs there only. -/
lemma urgencyOn?_eq (m : Machine) (cpu : Nat) :
    m.urgencyOn? cpu = (m.runs[cpu]?.bind (·.current?)).map (·.2) := by
  rw [urgencyOn?, core?, runs, Array.getElem?_map]
  cases m.cores[cpu]? <;> rfl

/-- Kicking makes one core give way, or none. -/
lemma kicks_kickVictim (m : Machine) (task : Task) (domain : Nat) :
    (m.kickVictim task domain).host.kicks = m.host.kicks ∨
      ∃ k : Kick, (m.kickVictim task domain).host.kicks = m.host.kicks.push k ∧
        m.victim? domain .gaming = some k.cpu := by
  unfold kickVictim
  rcases hv : m.victim? domain .gaming with _ | cpu
  · exact .inl rfl
  · exact .inr ⟨⟨cpu, { preempt := true }⟩, rfl, rfl⟩

/-- Attending to a task kicks somebody only if the task is gaming. -/
lemma kicks_attend (m : Machine) (task : Task) (flags : TaskFlags) :
    (m.attend task flags).host.kicks = m.host.kicks ∨
      flags.gaming = true ∧ ∃ k : Kick, (m.attend task flags).host.kicks = m.host.kicks.push k ∧
        ∃ u, m.urgencyOn? k.cpu = some u ∧ u ≠ .gaming := by
  unfold attend
  dsimp only
  split
  · next hgaming =>
    split
    · rcases (m.countGamingEnqueue task).kicks_kickVictim task
        (m.countGamingEnqueue task).topology.lowLatencyDomain with hsame | ⟨k, hkick, hvictim⟩
      · exact .inl hsame
      · obtain ⟨u, hu, hless⟩ := urgencyOn?_of_victim? hvictim
        rw [urgencyOn?_eq, runs_countGamingEnqueue, ← urgencyOn?_eq] at hu
        refine .inr ⟨hgaming, k, hkick, u, hu, ?_⟩
        rintro rfl
        exact Nat.lt_irrefl _ hless
    · exact .inl rfl
  · split
    · exact .inl rfl
    · exact .inl rfl

end Machine

/-! ## Kicks -/

namespace Engine

/-- Choosing a core for a task kicks nobody. -/
lemma kicks_selectCpu (e : Engine) (task : Task) (prev : Nat) :
    (e.selectCpu task prev).2.host.kicks = e.host.kicks := by
  obtain ⟨found, host, -, hsearch, ho⟩ := e.outcome_selectCpu task prev
  rw [ho.host_eq]
  cases found with
  | none => exact hsearch.kicks_eq
  | some cpu => exact hsearch.kicks_eq

/-- Enqueueing a task kicks somebody only if the task is gaming by what is remembered of it. -/
lemma kicks_enqueue (e : Engine) (task : Task) :
    (e.enqueue task).host.kicks = e.host.kicks ∨
      ∃ s, (e.tasks.track task.pid).get? task.pid = some s ∧ s.flags.gaming = true ∧
        ∃ k : Kick, (e.enqueue task).host.kicks = e.host.kicks.push k ∧
          ∃ u, e.urgencyOn? k.cpu = some u ∧ u ≠ .gaming := by
  rcases e with ⟨m, tasks, queues, reason⟩
  unfold enqueue
  dsimp only [onMachine, onTasks, task?]
  rcases (tasks.track task.pid).get? task.pid with _ | s
  · exact .inl rfl
  · rcases (m.countEnqueue task).kicks_attend task s.flags with hsame | ⟨hg, k, hkick, u, hu, hne⟩
    · exact .inl hsame
    · rw [Machine.urgencyOn?_eq, Machine.runs_countEnqueue, ← Machine.urgencyOn?_eq] at hu
      exact .inr ⟨s, rfl, hg, k, hkick, u, hu, hne⟩

end Engine

namespace Mirrors

variable {t : Topology} {o : Occupancy} {e : Engine}

/-- A core that is seen to run something runs a task that is as urgent as is seen. -/
lemma urgency_of_urgencyOn? (h : Mirrors t o e) {cpu : Nat} {u : Urgency}
    (hu : e.urgencyOn? cpu = some u) :
    ∃ pid, o cpu = some pid ∧ TaskState.urgency (e.task? pid) = u := by
  rw [Machine.urgencyOn?_eq] at hu
  obtain ⟨seen, hseen, rfl⟩ := Option.map_eq_some_iff.1 hu
  obtain ⟨r, hr, hcurrent⟩ := Option.bind_eq_some_iff.1 hseen
  rw [h.runs cpu r hr] at hcurrent
  obtain ⟨pid, ho, hpid⟩ := Option.bind_eq_some_iff.1 hcurrent
  refine ⟨pid, ho, ?_⟩
  -- task zero is never seen
  unfold Engine.seen at hpid
  split at hpid
  · cases hpid
  · rw [← Option.some.inj hpid]

/-- Only gaming tasks kick cores, one at a time, and what runs on a core that is kicked is not
gaming. -/
lemma kicks_enqueue (h : Mirrors t o e) (task : Task) :
    (e.enqueue task).host.kicks = e.host.kicks ∨
      TaskState.urgency (e.task? task.pid) = .gaming ∧
        ∃ k : Kick, (e.enqueue task).host.kicks = e.host.kicks.push k ∧
          ∃ pid, o k.cpu = some pid ∧ TaskState.urgency (e.task? pid) ≠ .gaming := by
  rcases e.kicks_enqueue task with hsame | ⟨s, hs, hgaming, k, hkick, u, hu, hne⟩
  · exact .inl hsame
  · obtain ⟨pid, ho, rfl⟩ := h.urgency_of_urgencyOn? hu
    refine .inr ⟨?_, k, hkick, pid, ho, hne⟩
    rcases h.sound.get?_track_self task.pid with hself | ⟨-, hself⟩
    · rw [Engine.task?, ← hself, hs]
      exact TaskState.urgency_of_gaming hgaming
    · -- a task that is new is not gaming
      obtain rfl : {} = s := Option.some.inj (hself.symm.trans hs)
      cases hgaming

/-- A task that runs stays as urgent as it is: only a task that rests wakes up or leaves. -/
lemma urgency_after (h : Mirrors t o e) {c : EngineCall} (hp : o.Permits t c) {cpu pid : Nat}
    (ho : o cpu = some pid) :
    TaskState.urgency ((e.after c).task? pid) = TaskState.urgency (e.task? pid) := by
  cases Engine.learns_after h.sound pid c with
  | kept c hkept => exact TaskState.urgency_eq_of_findings hkept
  | new c hnone hnew =>
    rw [TaskState.urgency_of_findings_empty hnew, Option.map_eq_none_iff.1 hnone]
    rfl
  | refreshed task prev s hpid => exact absurd (hpid ▸ ho) (hp cpu)
  | forgotten => exact absurd ho (hp cpu)

end Mirrors

end CoreSteer
