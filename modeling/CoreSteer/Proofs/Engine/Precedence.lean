import CoreSteer.Proofs.Engine.Calls
/-!
# Gaming tasks come first, but for ties

A task that is enqueued gets a key, and the queues go by keys.  What a task was when it was enqueued
is its `Standing`, from which the key follows; the standings of all tasks that were ever enqueued, in
order, are the history `Engine.comers`.  The invariant `Explains` says that every entry in a queue
goes back to one of them and has its key.

No key is lower than that of a gaming task, but the key of a task that is not tracked, and that of a
task whose burst is too short to count, is as low.  Equal keys go by arrival.  So a gaming task is
overtaken by nobody who came after it, and a task that came before it is served first only if its
key is zero.
-/
namespace CoreSteer

/-- What a task is when it is enqueued. -/
inductive Standing where
  /-- Nothing is remembered of it. -/
  | untracked
  /-- It counts as gaming. -/
  | gaming
  /-- Its burst counts as short. -/
  | interactive (burst : Nat)
  /-- It is none of these. -/
  | batch (burst : Nat)
deriving DecidableEq, Repr

namespace Standing

/-- What a task is by what is remembered of it. -/
def ofState : Option TaskState → Standing
  | none => untracked
  | some s =>
    if s.flags.gaming then gaming
    else if s.flags.interactive then interactive s.burst
    else batch s.burst

/-- The key that a task gets. -/
def key : Standing → Nat
  | untracked => 0
  | gaming => 0
  | interactive burst => burst / 1000
  | batch burst => burst / 100

lemma key_ofState (s : TaskState) :
    (ofState (some s)).key = queueKey s.flags.gaming s.flags.interactive s.burst := by
  cases hg : s.flags.gaming <;> cases hi : s.flags.interactive <;>
    simp [ofState, queueKey, key, hg, hi]

/-- Beside gaming tasks the lowest key goes to tasks that are not tracked, and to those whose bursts
are so short that they divide to nothing. -/
lemma key_eq_zero_iff {s : Standing} :
    s.key = 0 ↔ s = gaming ∨ s = untracked ∨ (∃ burst < 1000, s = interactive burst) ∨
      ∃ burst < 100, s = batch burst := by
  cases s with
  | untracked => simp [key]
  | gaming => simp [key]
  | interactive burst => simp [key, Nat.div_eq_zero_iff]
  | batch burst => simp [key, Nat.div_eq_zero_iff]

end Standing

/-! ## The history -/

namespace Engine

/-- What a task is if it is enqueued now. -/
def standing (e : Engine) (task : Task) : Standing :=
  .ofState ((e.tasks.track task.pid).get? task.pid)

/-- The task that a call enqueues, if it enqueues one, and what it is. -/
def comer (e : Engine) : EngineCall → List (Nat × Standing)
  | .enqueue task => [(task.pid, e.standing task)]
  | _ => []

/-- The tasks that calls enqueue, in order, and what each of them is when it is enqueued. -/
def comers (e : Engine) : List EngineCall → List (Nat × Standing)
  | [] => []
  | c :: cs => e.comer c ++ (e.after c).comers cs

lemma key_standing (e : Engine) (task : Task) : (e.standing task).key = e.keyFor task := by
  unfold standing keyFor
  rcases (e.tasks.track task.pid).get? task.pid with _ | s
  · rfl
  · exact Standing.key_ofState s

lemma queues_enqueue (e : Engine) (task : Task) :
    ∃ id, (e.enqueue task).queues =
      e.queues.insert id task.pid e.tunables.load.slice (e.standing task).key := by
  obtain ⟨id, kicks, ho⟩ := e.outcome_enqueue task
  rw [key_standing]
  exact ⟨id, ho.queues_eq⟩

end Engine

/-! ## The invariant -/

/-- Every entry in the queues goes back to a task of the history, and has its key. -/
structure Explains (came : List (Nat × Standing)) (q : DispatchQueues) : Prop where
  /-- As many tasks came to the queues as the history has. -/
  arrivals : q.arrivals = came.length
  /-- An entry is for the task that came under its number, with the key of that task. -/
  entries : ∀ w ∈ q.entries, ∃ s, came[w.arrival]? = some (w.pid, s) ∧ w.vtime = s.key

namespace Explains

variable {came : List (Nat × Standing)} {q q' : DispatchQueues}

/-- Entries that are gone need no explanation. -/
lemma of_subset (h : Explains came q) (ha : q'.arrivals = q.arrivals)
    (hs : ∀ w ∈ q'.entries, w ∈ q.entries) : Explains came q' where
  arrivals := ha.trans h.arrivals
  entries w hw := h.entries w (hs w hw)

/-- A task that comes with the key of its standing is the last of the history. -/
lemma insert (h : Explains came q) (id : QueueId) (pid slice : Nat) (s : Standing) :
    Explains (came ++ [(pid, s)]) (q.insert id pid slice s.key) where
  arrivals := by simp [DispatchQueues.insert, h.arrivals]
  entries w hw := by
    rcases List.mem_cons.1 ((q.entries_insert id pid slice s.key).mem_iff.1 hw) with rfl | hw
    · exact ⟨s, by simp [h.arrivals], rfl⟩
    · obtain ⟨r, hr, hkey⟩ := h.entries w hw
      obtain ⟨hlt, -⟩ := List.getElem?_eq_some_iff.1 hr
      exact ⟨r, (List.getElem?_append_left hlt).trans hr, hkey⟩

/-- Whatever happens to an engine, its history goes on to explain its queues. -/
lemma after {e : Engine} (h : Explains came e.queues) (c : EngineCall) :
    Explains (came ++ e.comer c) (e.after c).queues := by
  -- most calls enqueue nobody and leave the queues alone
  have hsame : ∀ {e' : Engine}, e'.queues = e.queues → Explains (came ++ []) e'.queues :=
    fun hq => by rw [hq, List.append_nil]; exact h
  cases c with
  | enqueue task =>
    obtain ⟨id, hq⟩ := e.queues_enqueue task
    show Explains (came ++ [(task.pid, e.standing task)]) (e.enqueue task).queues
    rw [hq]
    exact h.insert id task.pid _ _
  | selectCpu task prev =>
    obtain ⟨_, _, -, -, ho⟩ := e.outcome_selectCpu task prev
    exact hsame ho.queues_eq
  | dispatch cpu =>
    rcases hp : e.queues.popFirst? (drainOrder e.topology cpu) with _ | ⟨w, queues⟩
    · exact hsame (e.outcome_dispatch_none hp).2.queues_eq
    · obtain ⟨id, -, hpop⟩ := DispatchQueues.popFirst?_eq_some hp
      have hq : (e.dispatch cpu).2.queues = queues := (e.outcome_dispatch_some hp).2.queues_eq
      show Explains (came ++ []) (e.dispatch cpu).2.queues
      rw [hq, List.append_nil]
      exact h.of_subset (DispatchQueues.arrivals_of_pop? hpop) fun v hv =>
        (DispatchQueues.entries_of_pop? hpop).mem_iff.2 (List.mem_cons_of_mem _ hv)
  | running task => exact hsame (e.outcome_running task).queues_eq
  | stopping task runnable => exact hsame (e.outcome_stopping task runnable).queues_eq
  | tick cpu => exact hsame (e.outcome_tick cpu).queues_eq
  | noteProfileMatch task => exact hsame (e.outcome_noteProfileMatch task).queues_eq
  | taskExit pid =>
    have hq : (e.taskExit pid).queues = e.queues.remove pid := (e.outcome_taskExit pid).queues_eq
    show Explains (came ++ []) (e.taskExit pid).queues
    rw [hq, List.append_nil]
    exact h.of_subset rfl fun w hw =>
      (List.mem_filter.1 ((e.queues.entries_remove pid).mem_iff.1 hw)).1
  | exit | readEvents | settings | knowledge | platform => exact hsame rfl

lemma afterAll {e : Engine} (h : Explains came e.queues) (cs : List EngineCall) :
    Explains (came ++ e.comers cs) (e.afterAll cs).queues := by
  induction cs generalizing e came with
  | nil =>
    rw [Engine.comers, List.append_nil]
    exact h
  | cons c cs ih =>
    rw [Engine.comers, ← List.append_assoc]
    exact ih (h.after c)

/-- The first of a queue in which a gaming task waits has the lowest key, and did not come after
that task unless it is a gaming task itself. -/
lemma first_of_pop? (h : Explains came q) {id : QueueId} {w g : Waiting}
    (hp : q.pop? id = some (w, q')) (hg : g ∈ (q.queue id).entries)
    (hgaming : came[g.arrival]? = some (g.pid, .gaming)) :
    ∃ s, came[w.arrival]? = some (w.pid, s) ∧
      (s = .gaming ∨ w.arrival < g.arrival ∧ s.key = 0) := by
  obtain ⟨x, hx, -⟩ := DispatchQueues.pop?_eq_some hp
  have hw : w ∈ (q.queue id).entries :=
    (DispatchQueue.entries_of_pop? hx).mem_iff.2 List.mem_cons_self
  obtain ⟨s, hs, hkey⟩ := h.entries w (DispatchQueues.mem_entries.2 ⟨id, hw⟩)
  obtain ⟨r, hr, hzero⟩ := h.entries g (DispatchQueues.mem_entries.2 ⟨id, hg⟩)
  obtain rfl : r = .gaming := by
    rw [hgaming] at hr
    exact (congrArg Prod.snd (Option.some.inj hr)).symm
  have hle : w.vtime < g.vtime ∨ w.vtime = g.vtime ∧ w.arrival ≤ g.arrival :=
    DispatchQueue.le_of_pop? hx g hg
  have hg0 : g.vtime = 0 := hzero
  refine ⟨s, hs, ?_⟩
  rcases Nat.lt_or_ge w.arrival g.arrival with hlt | hge
  · exact .inr ⟨hlt, by omega⟩
  · -- nobody else came under the number of the gaming task
    have heq : w.arrival = g.arrival := by omega
    rw [heq, hgaming] at hs
    exact .inl (congrArg Prod.snd (Option.some.inj hs)).symm

/-- When nobody has come, there is nothing to explain. -/
lemma make {n reserve : Nat} (h : DispatchQueues.make n reserve = .ok q) : Explains [] q where
  arrivals := by rw [DispatchQueues.make_eq_ok h, List.length_nil]
  entries w hw := by rw [DispatchQueues.entries_make h] at hw; cases hw

end Explains

/-! ## Runs -/

namespace Engine

/-- A core that finds a task takes it from one of the queues that it looks at. -/
lemma pop?_of_dispatch {e e' : Engine} {cpu : Nat} {w : Waiting}
    (h : e.dispatch cpu = (some w, e')) :
    ∃ id ∈ drainOrder e.topology cpu, e.queues.pop? id = some (w, e'.queues) := by
  rcases hp : e.queues.popFirst? (drainOrder e.topology cpu) with _ | ⟨v, queues⟩
  · obtain ⟨hnone, -⟩ := e.outcome_dispatch_none hp
    rw [h] at hnone
    cases hnone
  · obtain ⟨hsome, ho⟩ := e.outcome_dispatch_some hp
    have hq := ho.queues_eq
    rw [h] at hsome hq
    obtain rfl : w = v := Option.some.inj hsome
    obtain rfl : e'.queues = queues := hq
    exact DispatchQueues.popFirst?_eq_some hp

/-- In a queue in which a gaming task waits, gaming tasks are first, but for ties.  Whatever happens
to an engine from its start on, in any order, a core that finds a task takes it from one of the
queues that it looks at.  If a task waits in that queue that counted as gaming when it was enqueued,
then the task found counted as gaming when it was enqueued, or it came before that task and, when it
was enqueued, was not tracked, or was interactive with a burst below 1000, or did batch work with a
burst below 100. -/
theorem gaming_first_but_for_ties (t : Topology) (config : EngineConfig) (tunables : TunablesCell)
    (hints : Hints) (host : Host) :
    ∃ e₀, start t config tunables hints host = .ok e₀ ∧
      ∀ (calls : List EngineCall) (e : Engine), e₀.afterAll calls = e →
        ∀ (cpu : Nat) (w : Waiting) (e' : Engine), e.dispatch cpu = (some w, e') →
          (∃ id ∈ drainOrder t cpu, e.queues.pop? id = some (w, e'.queues)) ∧
            ∀ id, e.queues.pop? id = some (w, e'.queues) → ∀ g ∈ (e.queues.queue id).entries,
              (e₀.comers calls)[g.arrival]? = some (g.pid, .gaming) →
                ∃ s, (e₀.comers calls)[w.arrival]? = some (w.pid, s) ∧
                  (s = .gaming ∨ w.arrival < g.arrival ∧
                    (s = .untracked ∨ (∃ burst < 1000, s = .interactive burst) ∨
                      ∃ burst < 100, s = .batch burst)) := by
  obtain ⟨queues, hqueues, hstart⟩ := exists_start t config tunables hints host
  refine ⟨_, hstart, fun calls e he cpu w e' hd => ?_⟩
  have h := (Explains.make hqueues).afterAll (e := ⟨.make t config tunables hints host,
    .ofCapacity config.taskCapacity, queues, none⟩) calls
  have ht := topology_afterAll ⟨.make t config tunables hints host,
    .ofCapacity config.taskCapacity, queues, none⟩ calls
  rw [he] at h ht
  change e.topology = t at ht
  constructor
  · obtain ⟨id, hid, hpop⟩ := pop?_of_dispatch hd
    exact ⟨id, ht ▸ hid, hpop⟩
  · intro id hpop g hg hgaming
    obtain ⟨s, hs, hfirst⟩ := h.first_of_pop? hpop hg hgaming
    refine ⟨s, hs, ?_⟩
    rcases hfirst with hfirst | ⟨hlt, hzero⟩
    · exact .inl hfirst
    · rcases Standing.key_eq_zero_iff.1 hzero with hgame | htie
      · exact .inl hgame
      · exact .inr ⟨hlt, htie⟩

/-- A game waits behind a task that finds no room in the table of tracked tasks, a short job, and a
job that was never classified; the table is full of tasks that came from a core that does not
exist. -/
def tiedCalls : List EngineCall :=
  let task (pid : Nat) (name : String) : Task :=
    { pid := pid, tgid := pid, name := .ofString name, allowed := .firstN 2 }
  [.selectCpu (task 1 "make") 0, .selectCpu (task 2 "wine64") 0] ++
    (List.range 62).map (fun i => .selectCpu (task (3 + i) "filler") 7) ++
    [.enqueue (task 99 "stranger"), .enqueue (task 1 "make"), .enqueue (task 3 "filler"),
      .enqueue (task 2 "wine64")]

theorem ties_before_game :
    start .twoDomains { taskCapacity := 0 } none {} (.ofTopology .twoDomains) = .ok onTwoDomains ∧
      onTwoDomains.comers tiedCalls =
        [(99, .untracked), (1, .interactive 0), (3, .batch 0), (2, .gaming)] ∧
      ⟨2, 0, 3000000, 3⟩ ∈ ((onTwoDomains.afterAll tiedCalls).queues.queue (.domain 0)).entries ∧
      ((onTwoDomains.afterAll tiedCalls).queues.pop? (.domain 0)).map (·.1) =
        some ⟨99, 0, 3000000, 0⟩ ∧
      ((onTwoDomains.afterAll tiedCalls).dispatch 0).1 = some ⟨99, 0, 3000000, 0⟩ ∧
      ((onTwoDomains.afterAll (tiedCalls ++ [.dispatch 0])).dispatch 0).1 =
        some ⟨1, 0, 3000000, 1⟩ ∧
      ((onTwoDomains.afterAll (tiedCalls ++ [.dispatch 0, .dispatch 0])).dispatch 0).1 =
        some ⟨3, 0, 3000000, 2⟩ :=
  ⟨start_twoDomains, by decide +kernel⟩

theorem gaming_first_but_for_ties_tiedCalls :
    ∃ e', (onTwoDomains.afterAll tiedCalls).dispatch 0 = (some ⟨99, 0, 3000000, 0⟩, e') ∧
      (onTwoDomains.afterAll tiedCalls).queues.pop? (.domain 0) =
        some (⟨99, 0, 3000000, 0⟩, e'.queues) ∧
      ⟨2, 0, 3000000, 3⟩ ∈ ((onTwoDomains.afterAll tiedCalls).queues.queue (.domain 0)).entries ∧
      (onTwoDomains.comers tiedCalls)[3]? = some (2, .gaming) ∧
      ∃ s, (onTwoDomains.comers tiedCalls)[0]? = some (99, s) ∧
        (s = .gaming ∨ 0 < 3 ∧
          (s = .untracked ∨ (∃ burst < 1000, s = .interactive burst) ∨
            ∃ burst < 100, s = .batch burst)) := by
  obtain ⟨e₀, hstart, h⟩ :=
    gaming_first_but_for_ties .twoDomains { taskCapacity := 0 } none {} (.ofTopology .twoDomains)
  obtain rfl : onTwoDomains = e₀ := Except.ok.inj (start_twoDomains.symm.trans hstart)
  -- all queues that the core looks at but the first are empty, and the game waits in the first
  obtain ⟨hfound, hempty, hwaits, hgame⟩ :
      ((onTwoDomains.afterAll tiedCalls).dispatch 0).1 = some ⟨99, 0, 3000000, 0⟩ ∧
        (∀ j ∈ [QueueId.domain 1, .fallback],
          ((onTwoDomains.afterAll tiedCalls).queues.pop? j).isNone = true) ∧
        ⟨2, 0, 3000000, 3⟩ ∈ ((onTwoDomains.afterAll tiedCalls).queues.queue (.domain 0)).entries ∧
        (onTwoDomains.comers tiedCalls)[3]? = some (2, .gaming) := by
    decide +kernel
  have horder : drainOrder .twoDomains 0 = [.domain 0, .domain 1, .fallback] := by decide
  rcases hd : (onTwoDomains.afterAll tiedCalls).dispatch 0 with ⟨found, e'⟩
  obtain rfl : found = some ⟨99, 0, 3000000, 0⟩ := (congrArg Prod.fst hd).symm.trans hfound
  obtain ⟨⟨id, hid, hpop⟩, hfirst⟩ := h tiedCalls _ rfl 0 _ e' hd
  rw [horder] at hid
  rcases List.mem_cons.1 hid with rfl | hid
  · exact ⟨e', rfl, hpop, hwaits, hgame, hfirst _ hpop _ hwaits hgame⟩
  · have hnone := hempty id hid
    rw [hpop] at hnone
    cases hnone

end Engine

end CoreSteer
