import CoreSteer.Proofs.Engine.Calls
/-!
# The books say what runs

An `Occupancy` says which task runs on each core.  A platform keeps to the life cycle of tasks if it
lets a task run only on a core that runs nothing, lets it stop only where it runs, and wakes it up,
enqueues it or lets it go only while it does not run.  Then the loads of domains and the run states
of cores are what the occupancy says, in view of what is remembered of the running tasks.

The flags of a task are read when it begins to run and again when it stops.  The invariant `Mirrors`
holds since nothing writes the flags of a task in between: only calls for the task itself do, and
the table of tracked tasks keeps tasks apart.
-/
namespace CoreSteer

/-- The task that runs on each core. -/
abbrev Occupancy := Nat → Option Nat

namespace Occupancy

/-- Nothing runs. -/
def empty : Occupancy := fun _ => none

/-- Say what runs on one core. -/
def set (o : Occupancy) (cpu : Nat) (x : Option Nat) : Occupancy :=
  fun c => if c = cpu then x else o c

/-- A task does not run. -/
def Rests (o : Occupancy) (pid : Nat) : Prop := ∀ cpu, o cpu ≠ some pid

/-- A call is part of the life cycle of tasks. -/
def Permits (t : Topology) (o : Occupancy) : EngineCall → Prop
  | .running task => task.cpu < t.nrCpus ∧ o task.cpu = none ∧ o.Rests task.pid
  | .stopping task _ => o task.cpu = some task.pid
  | .selectCpu task _ => o.Rests task.pid
  | .enqueue task => o.Rests task.pid
  | .taskExit pid => o.Rests pid
  | _ => True

/-- What runs after a call. -/
def after (o : Occupancy) : EngineCall → Occupancy
  | .running task => o.set task.cpu (some task.pid)
  | .stopping task _ => o.set task.cpu none
  | _ => o

/-- Calls in order are part of the life cycle of tasks. -/
def PermitsAll (t : Topology) (o : Occupancy) : List EngineCall → Prop
  | [] => True
  | c :: cs => o.Permits t c ∧ (o.after c).PermitsAll t cs

/-- What runs after calls in order. -/
def afterAll (o : Occupancy) (cs : List EngineCall) : Occupancy := cs.foldl after o

/-- On how many cores of a domain a task runs that is as `p` says. -/
def count (o : Occupancy) (t : Topology) (d : Nat) (p : Nat → Bool) : Nat :=
  (List.range t.nrCpus).countP fun cpu => t.domainOf? cpu == some d && (o cpu).any p

/-! ## Counting -/

variable {o : Occupancy} {t : Topology} {d cpu pid : Nat} {p q : Nat → Bool}

lemma set_self (o : Occupancy) (cpu : Nat) (x : Option Nat) : o.set cpu x cpu = x := if_pos rfl

lemma set_of_ne (o : Occupancy) {c : Nat} (x : Option Nat) (h : c ≠ cpu) :
    o.set cpu x c = o c := if_neg h

lemma rests_empty (pid : Nat) : empty.Rests pid := fun _ h => by cases h

lemma Rests.set (h : o.Rests pid) {x : Option Nat} (hx : x ≠ some pid) :
    (o.set cpu x).Rests pid := by
  intro c
  by_cases hc : c = cpu
  · rw [hc, set_self]
    exact hx
  · rw [set_of_ne _ _ hc]
    exact h c

lemma set_set (o : Occupancy) (cpu : Nat) (x y : Option Nat) :
    (o.set cpu x).set cpu y = o.set cpu y := by
  funext c
  by_cases h : c = cpu
  · rw [h, set_self, set_self]
  · rw [set_of_ne _ _ h, set_of_ne _ _ h, set_of_ne _ _ h]

lemma set_eq_self {x : Option Nat} (h : o cpu = x) : o.set cpu x = o := by
  funext c
  by_cases hc : c = cpu
  · rw [hc, set_self, h]
  · rw [set_of_ne _ _ hc]

lemma count_congr (h : ∀ cpu pid, o cpu = some pid → p pid = q pid) :
    o.count t d p = o.count t d q := by
  refine List.countP_congr fun cpu _ => ?_
  rcases ho : o cpu with _ | pid
  · rfl
  · simp [h cpu pid ho]

lemma count_empty (t : Topology) (d : Nat) (p : Nat → Bool) : empty.count t d p = 0 := by
  refine List.countP_eq_zero.2 fun cpu _ => ?_
  rw [empty, Option.any_none, Bool.and_false]
  exact Bool.false_ne_true

lemma count_le (o : Occupancy) (t : Topology) (d : Nat) (p : Nat → Bool) :
    o.count t d p ≤ o.count t d fun _ => true := by
  refine List.countP_mono_left fun cpu _ hc => ?_
  rw [Bool.and_eq_true] at hc ⊢
  refine ⟨hc.1, ?_⟩
  rcases ho : o cpu with _ | pid
  · rw [ho] at hc
    exact absurd hc.2 (by simp)
  · rfl

/-- There are so few cores that counting them never wraps around. -/
lemma count_lt (o : Occupancy) (t : Topology) (d : Nat) (p : Nat → Bool) :
    o.count t d p < UInt64.size := by
  have hle : o.count t d p ≤ (List.range t.nrCpus).length := List.countP_le_length
  have hcpus := t.nrCpus_le
  have hsize : maxCpus < UInt64.size := by decide
  rw [List.length_range] at hle
  omega

/-- Where the two differ in one number below `n`, the counts below `n` differ by that. -/
lemma countP_range_of_ne {n cpu : Nat} {p q : Nat → Bool} (hcpu : cpu < n) (hp : p cpu = false)
    (hne : ∀ c, c ≠ cpu → q c = p c) :
    (List.range n).countP q = (List.range n).countP p + (q cpu).toNat := by
  induction n with
  | zero => omega
  | succ n ih =>
    rw [List.range_succ, List.countP_append, List.countP_append, List.countP_singleton,
      List.countP_singleton]
    rcases Nat.lt_or_ge cpu n with hlt | hge
    · rw [ih hlt, hne n (by omega)]
      omega
    · obtain rfl : cpu = n := by omega
      have hbelow : (List.range cpu).countP q = (List.range cpu).countP p :=
        List.countP_congr fun c hc => by
          rw [hne c (Nat.ne_of_lt (List.mem_range.1 hc))]
      rw [hbelow, hp]
      cases q cpu <;> rfl

/-- A task that begins to run counts where its core belongs. -/
lemma count_set (hcpu : cpu < t.nrCpus) (ho : o cpu = none) :
    (o.set cpu (some pid)).count t d p =
      o.count t d p + (t.domainOf? cpu == some d && p pid).toNat := by
  unfold count
  rw [countP_range_of_ne (p := fun c => t.domainOf? c == some d && (o c).any p) hcpu (by simp [ho])
    fun c hc => by rw [set_of_ne _ _ hc], set_self]
  rfl

/-- What runs on a core counts nowhere else. -/
lemma count_set_of_ne {x : Option Nat} (h : t.domainOf? cpu ≠ some d) :
    (o.set cpu x).count t d p = o.count t d p := by
  refine List.countP_congr fun c _ => ?_
  by_cases hc : c = cpu
  · simp [hc, h]
  · rw [set_of_ne _ _ hc]

/-- A task that stops counted where its core belongs. -/
lemma count_set_none (hcpu : cpu < t.nrCpus) (ho : o cpu = some pid) :
    o.count t d p =
      (o.set cpu none).count t d p + (t.domainOf? cpu == some d && p pid).toNat := by
  rw [← count_set hcpu (set_self o cpu none), set_set, set_eq_self ho]

end Occupancy

/-! ## What is read of a task -/

namespace TaskState

/-- A task counts as gaming exactly when it is as urgent as gaming tasks are. -/
lemma isGaming_eq (s : Option TaskState) : isGaming s = (urgency s == .gaming) := by
  cases s with
  | none => rfl
  | some s =>
    cases hg : s.flags.gaming <;> cases hi : s.flags.interactive <;> simp [isGaming, urgency, hg, hi]

lemma urgency_map {f : TaskState → TaskState} (h : ∀ s, (f s).flags = s.flags)
    (s : Option TaskState) : urgency (s.map f) = urgency s := by
  cases s with
  | none => rfl
  | some s => simp only [Option.map_some, urgency, h]

end TaskState

lemma TaskTable.Sound.urgency_modify {t : TaskTable} (h : t.Sound) (pid : Nat)
    {f : TaskState → TaskState} (hf : ∀ s, (f s).flags = s.flags) (p : Nat) :
    TaskState.urgency ((t.modify pid f).get? p) = TaskState.urgency (t.get? p) := by
  obtain ⟨-, hself, hothers⟩ := h.modify pid f
  by_cases hp : p = pid
  · rw [hp, hself, TaskState.urgency_map hf]
  · rw [hothers p hp]

lemma Machine.loads_modifyLoadAt (m : Machine) (cpu d : Nat) (f : DomainLoad → DomainLoad) :
    (m.modifyLoadAt cpu f).loads[d]? =
      if m.topology.domainOf? cpu = some d then m.loads[d]?.map f else m.loads[d]? := by
  unfold modifyLoadAt
  split
  · next d' hd =>
    simp only [modifyLoad, Array.getElem?_modify, hd, Option.some.injEq]
  · next hd => simp [hd]

namespace DomainLoad

/-- Counting one more does not wrap around where the count is small. -/
lemma start_eq {a b : Nat} {g : Bool} (ha : a + 1 < UInt64.size) (hb : b + g.toNat < UInt64.size) :
    start ⟨a, b⟩ g = ⟨a + 1, b + g.toNat⟩ := by
  cases g with
  | false => exact congrArg₂ DomainLoad.mk (wrap64_of_lt ha) rfl
  | true => exact congrArg₂ DomainLoad.mk (wrap64_of_lt ha) (wrap64_of_lt hb)

lemma stop_eq (a b : Nat) (g : Bool) : stop ⟨a + 1, b + g.toNat⟩ g = ⟨a, b⟩ := by
  cases g <;> rfl

end DomainLoad

namespace RunState

lemma current?_begin (u : Urgency) (pid now : Nat) :
    (begin u pid now).current? = if pid = 0 then none else some (pid, u) := rfl

/-- A core that runs a task does not run it any more when it is told so. -/
lemma current?_clearIf {r : RunState} {pid : Nat} {u : Urgency}
    (h : r.current? = if pid = 0 then none else some (pid, u)) :
    (r.clearIf pid).2.current? = none := by
  have hpid : r.pid = pid := by
    unfold current? at h
    split at h <;> split at h <;> simp_all
  rw [clearIf, if_pos hpid]
  rfl

end RunState

/-! ## The invariant -/

/-- What a core is seen to run, where `pid` runs, in view of what is remembered of it; task zero is
never seen. -/
def Engine.seen (e : Engine) (pid : Nat) : Option (Nat × Urgency) :=
  if pid = 0 then none else some (pid, TaskState.urgency (e.task? pid))

/-- The books of an engine say what runs on the cores of a topology. -/
structure Mirrors (t : Topology) (o : Occupancy) (e : Engine) : Prop where
  /-- The engine is for this topology. -/
  topology : e.topology = t
  /-- No task runs on two cores. -/
  once : ∀ cpu cpu' pid, o cpu = some pid → o cpu' = some pid → cpu = cpu'
  /-- Tasks run on cores that exist. -/
  inside : ∀ cpu pid, o cpu = some pid → cpu < t.nrCpus
  /-- The table of tracked tasks is in order. -/
  sound : e.tasks.Sound
  /-- The load of a domain counts the tasks that run there. -/
  loads : ∀ d < t.nrDomains, e.loads[d]? =
    some ⟨o.count t d fun _ => true, o.count t d fun pid => TaskState.isGaming (e.task? pid)⟩
  /-- What runs is known of each core. -/
  size : e.runs.size = t.nrCpus
  /-- A core runs what is known of it. -/
  runs : ∀ (cpu : Nat) (r : RunState), e.runs[cpu]? = some r → r.current? = (o cpu).bind e.seen

namespace Mirrors

variable {t : Topology} {o : Occupancy} {e e' : Engine}

/-- Calls that write nothing about running tasks do not matter. -/
lemma of_books (h : Mirrors t o e) (ht : e'.topology = e.topology) {tasks : TaskTable}
    (hb : e'.books = { e.books with tasks := tasks }) (hs : tasks.Sound)
    (hrun : ∀ cpu pid, o cpu = some pid → tasks.get? pid = e.tasks.get? pid) : Mirrors t o e' := by
  have hloads : e'.loads = e.loads := congrArg Books.loads hb
  have hruns : e'.runs = e.runs := congrArg Books.runs hb
  have htasks : e'.tasks = tasks := congrArg Books.tasks hb
  have htask : ∀ cpu pid, o cpu = some pid → e'.task? pid = e.task? pid := by
    intro cpu pid ho
    rw [Engine.task?, htasks]
    exact hrun cpu pid ho
  refine ⟨ht.trans h.topology, h.once, h.inside, htasks ▸ hs, fun d hd => ?_, hruns ▸ h.size,
    fun cpu r hr => ?_⟩
  · have hgaming : (o.count t d fun pid => TaskState.isGaming (e'.task? pid)) =
        o.count t d fun pid => TaskState.isGaming (e.task? pid) :=
      Occupancy.count_congr fun cpu pid ho => by rw [htask cpu pid ho]
    rw [hloads, h.loads d hd, hgaming]
  · rw [hruns] at hr
    rw [h.runs cpu r hr]
    exact Option.bind_congr fun pid ho => by rw [Engine.seen, Engine.seen, htask cpu pid ho]

lemma of_books_eq (h : Mirrors t o e) (ht : e'.topology = e.topology) (hb : e'.books = e.books) :
    Mirrors t o e' :=
  h.of_books ht hb h.sound fun _ _ _ => rfl

/-- A change of the loads and runs at one core, and of no flags of tasks, is right if it is right
there. -/
lemma of_change (h : Mirrors t o e) (ht : e'.topology = e.topology) {cpu : Nat}
    (hcpu : cpu < t.nrCpus) {x : Option Nat} {load : DomainLoad → DomainLoad}
    {run : RunState → RunState} {f : TaskState → TaskState} {pid : Nat}
    (hb : e'.books = ⟨(e.modifyLoadAt cpu load).loads, e.runs.modify cpu run, e.tasks.modify pid f⟩)
    (hf : ∀ s, (f s).flags = s.flags)
    (hx : ∀ p, x = some p → o.Rests p)
    (hload : ∀ d < t.nrDomains, t.domainOf? cpu = some d →
      load ⟨o.count t d fun _ => true, o.count t d fun pid => TaskState.isGaming (e.task? pid)⟩ =
        ⟨(o.set cpu x).count t d fun _ => true,
          (o.set cpu x).count t d fun pid => TaskState.isGaming (e.task? pid)⟩)
    (hrun : ∀ r, r.current? = (o cpu).bind e.seen → (run r).current? = x.bind e.seen) :
    Mirrors t (o.set cpu x) e' := by
  have hloads : e'.loads = (e.modifyLoadAt cpu load).loads := congrArg Books.loads hb
  have hruns : e'.runs = e.runs.modify cpu run := congrArg Books.runs hb
  have htasks : e'.tasks = e.tasks.modify pid f := congrArg Books.tasks hb
  have hurgency : ∀ p, TaskState.urgency (e'.task? p) = TaskState.urgency (e.task? p) := by
    intro p
    rw [Engine.task?, htasks]
    exact h.sound.urgency_modify pid hf p
  have hgaming : (fun p => TaskState.isGaming (e'.task? p)) =
      fun p => TaskState.isGaming (e.task? p) := by
    funext p
    rw [TaskState.isGaming_eq, TaskState.isGaming_eq, hurgency]
  have hseen : e'.seen = e.seen := by
    funext p
    rw [Engine.seen, Engine.seen, hurgency]
  refine ⟨ht.trans h.topology, fun a b p ha hb => ?_, fun a p ha => ?_, ?_, fun d hd => ?_, ?_,
    fun a r hr => ?_⟩
  · -- what comes to run on this core runs on no other
    by_cases hac : a = cpu <;> by_cases hbc : b = cpu
    · rw [hac, hbc]
    · rw [hac, Occupancy.set_self] at ha
      rw [Occupancy.set_of_ne _ _ hbc] at hb
      exact absurd hb (hx p ha b)
    · rw [hbc, Occupancy.set_self] at hb
      rw [Occupancy.set_of_ne _ _ hac] at ha
      exact absurd ha (hx p hb a)
    · rw [Occupancy.set_of_ne _ _ hac] at ha
      rw [Occupancy.set_of_ne _ _ hbc] at hb
      exact h.once a b p ha hb
  · by_cases hac : a = cpu
    · exact hac ▸ hcpu
    · rw [Occupancy.set_of_ne _ _ hac] at ha
      exact h.inside a p ha
  · rw [htasks]
    exact (h.sound.modify pid f).1
  · -- no flags changed, so only the load of the domain of this core did
    rw [hloads, Machine.loads_modifyLoadAt, h.topology, h.loads d hd, hgaming]
    split
    · next hdom => rw [Option.map_some, hload d hd hdom]
    · next hdom =>
      rw [Occupancy.count_set_of_ne hdom, Occupancy.count_set_of_ne hdom]
  · rw [hruns, Array.size_modify, h.size]
  · rw [hruns, Array.getElem?_modify] at hr
    rw [hseen]
    split at hr
    · next hac =>
      obtain ⟨r', hr', rfl⟩ := Option.map_eq_some_iff.1 hr
      subst hac
      rw [Occupancy.set_self]
      exact hrun r' (h.runs cpu r' hr')
    · next hac =>
      rw [Occupancy.set_of_ne _ _ (Ne.symm hac)]
      exact h.runs a r hr

lemma running (h : Mirrors t o e) {task : Task} (hcpu : task.cpu < t.nrCpus)
    (ho : o task.cpu = none) (hrests : o.Rests task.pid) :
    Mirrors t (o.set task.cpu (some task.pid)) (e.running task) := by
  have hr := e.result_running task
  refine h.of_change hr.outcome.topology_eq hcpu hr.books_eq (fun _ => rfl)
    (fun p hp => Option.some.inj hp ▸ hrests) (fun d hd hdom => ?_) fun r _ => ?_
  · have hcount : ∀ p, (o.set task.cpu (some task.pid)).count t d p =
        o.count t d p + (p task.pid).toNat := by
      intro p
      rw [Occupancy.count_set hcpu ho, hdom, beq_self_eq_true, Bool.true_and]
    rw [← TaskState.isGaming_eq, hcount, hcount]
    refine DomainLoad.start_eq ?_ ?_
    · exact hcount (fun _ => true) ▸ Occupancy.count_lt _ _ _ _
    · exact hcount (fun pid => TaskState.isGaming (e.task? pid)) ▸ Occupancy.count_lt _ _ _ _
  · exact RunState.current?_begin _ _ _

lemma stopping (h : Mirrors t o e) {task : Task} (ho : o task.cpu = some task.pid)
    (runnable : Bool) : Mirrors t (o.set task.cpu none) (e.stopping task runnable) := by
  have hr := e.result_stopping task runnable
  have hcpu := h.inside _ _ ho
  refine h.of_change hr.outcome.topology_eq hcpu hr.books_eq (fun _ => rfl)
    (fun p hp => by cases hp) (fun d hd hdom => ?_) fun r hrun => ?_
  · have hcount : ∀ p, o.count t d p =
        (o.set task.cpu none).count t d p + (p task.pid).toNat := by
      intro p
      rw [Occupancy.count_set_none hcpu ho, hdom, beq_self_eq_true, Bool.true_and]
    rw [hcount, hcount]
    exact DomainLoad.stop_eq _ _ _
  · rw [ho] at hrun
    exact RunState.current?_clearIf hrun

/-- Whatever happens in the life cycle of tasks, the books go on to say what runs. -/
lemma after (h : Mirrors t o e) {c : EngineCall} (hp : o.Permits t c) :
    Mirrors t (o.after c) (e.after c) := by
  -- a task that rests is none of those that run
  have hne : ∀ {pid}, o.Rests pid → ∀ cpu p, o cpu = some p → p ≠ pid := by
    rintro pid hrests cpu p ho rfl
    exact hrests cpu ho
  cases c with
  | selectCpu task prev =>
    obtain ⟨_, _, tasks, -, -, hrevised, hr⟩ := e.result_selectCpu task prev
    obtain ⟨hsound, hget⟩ := h.sound.revised hrevised
    exact h.of_books hr.outcome.topology_eq hr.books_eq hsound fun cpu p ho => hget p (hne hp cpu p ho)
  | enqueue task =>
    obtain ⟨_, _, tasks, hrevised, hr⟩ := e.result_enqueue task
    obtain ⟨hsound, hget⟩ := h.sound.revised hrevised
    exact h.of_books hr.outcome.topology_eq hr.books_eq hsound fun cpu p ho => hget p (hne hp cpu p ho)
  | dispatch cpu =>
    rcases hpop : e.queues.popFirst? (drainOrder e.topology cpu) with _ | ⟨w, queues⟩
    · obtain ⟨-, hr⟩ := e.result_dispatch_none hpop
      exact h.of_books_eq hr.outcome.topology_eq hr.books_eq
    · obtain ⟨-, hr⟩ := e.result_dispatch_some hpop
      exact h.of_books_eq hr.outcome.topology_eq hr.books_eq
  | running task => exact h.running hp.1 hp.2.1 hp.2.2
  | stopping task runnable => exact h.stopping hp runnable
  | tick cpu =>
    have hr := e.result_tick cpu
    exact h.of_books_eq hr.outcome.topology_eq hr.books_eq
  | noteProfileMatch task =>
    have hr := e.result_noteProfileMatch task
    exact h.of_books_eq hr.outcome.topology_eq hr.books_eq
  | taskExit pid =>
    have hr := e.result_taskExit pid
    obtain ⟨hsound, hget⟩ := h.sound.remove pid
    exact h.of_books hr.outcome.topology_eq hr.books_eq hsound fun cpu p ho => hget p (hne hp cpu p ho)
  | exit | readEvents | settings | knowledge | platform => exact h.of_books_eq rfl rfl

lemma afterAll (h : Mirrors t o e) {cs : List EngineCall} (hp : o.PermitsAll t cs) :
    Mirrors t (o.afterAll cs) (e.afterAll cs) := by
  induction cs generalizing o e with
  | nil => exact h
  | cons c cs ih => exact ih (h.after hp.1) hp.2

/-- When nothing has happened, nothing runs. -/
lemma start (t : Topology) (config : EngineConfig) (tunables : TunablesCell) (hints : Hints)
    (host : Host) (queues : DispatchQueues) :
    Mirrors t .empty ⟨.make t config tunables hints host, .ofCapacity config.taskCapacity, queues,
      none⟩ where
  topology := rfl
  once _ _ _ h := by cases h
  inside _ _ h := by cases h
  sound := TaskTable.sound_ofCapacity _
  loads d hd := by
    show (Array.replicate t.nrDomains _)[d]? = _
    rw [Array.getElem?_replicate, if_pos hd, Occupancy.count_empty, Occupancy.count_empty]
  size := by
    show ((Array.replicate t.nrCpus _).map _).size = _
    rw [Array.size_map, Array.size_replicate]
  runs cpu r hr := by
    change ((Array.replicate t.nrCpus _).map _)[cpu]? = _ at hr
    rw [Array.map_replicate, Array.getElem?_replicate] at hr
    split at hr
    · rw [← Option.some.inj hr]
      rfl
    · cases hr

/-! ### What the books say -/

/-- The load of a domain says how many tasks run there and how many of them are gaming. -/
lemma load (h : Mirrors t o e) {d : Nat} (hd : d < t.nrDomains) :
    ∃ l, e.load? d = some l ∧ l.tasks = (o.count t d fun _ => true) ∧
      l.gaming = (o.count t d fun pid => TaskState.isGaming (e.task? pid)) ∧ l.gaming ≤ l.tasks :=
  ⟨_, h.loads d hd, rfl, rfl, Occupancy.count_le _ _ _ _⟩

/-- The run state of a core says which task it runs, and how urgent the task is. -/
lemma core (h : Mirrors t o e) {cpu : Nat} (hcpu : cpu < t.nrCpus) :
    ∃ c, e.core? cpu = some c ∧ c.run.current? = (o cpu).bind e.seen := by
  have hsize : cpu < e.cores.size := by
    have := h.size
    rw [Machine.runs, Array.size_map] at this
    omega
  refine ⟨e.cores[cpu], Array.getElem?_eq_getElem hsize, h.runs cpu _ ?_⟩
  rw [Machine.runs, Array.getElem?_map, Array.getElem?_eq_getElem hsize, Option.map_some]

end Mirrors

/-! ## Runs -/

namespace Engine

/-- The books say what runs.  From the start of an engine on, as long as the platform keeps to the
life cycle of tasks and whatever else happens, no task runs on two cores; the load of each domain
says how many tasks run on its cores and how many of them are gaming by what is remembered of them;
and the run state of each core says which task it runs and how urgent it is by what is remembered of
it, where task zero is never seen. -/
theorem books_say_what_runs (t : Topology) (config : EngineConfig) (tunables : TunablesCell)
    (hints : Hints) (host : Host) :
    ∃ e₀, start t config tunables hints host = .ok e₀ ∧
      ∀ calls, Occupancy.PermitsAll t .empty calls →
        ∀ o e, Occupancy.afterAll .empty calls = o → e₀.afterAll calls = e →
          (∀ cpu cpu' pid, o cpu = some pid → o cpu' = some pid → cpu = cpu') ∧
          (∀ d < t.nrDomains, ∃ l, e.load? d = some l ∧
            l.tasks = (o.count t d fun _ => true) ∧
            l.gaming = (o.count t d fun pid => TaskState.isGaming (e.task? pid)) ∧
            l.gaming ≤ l.tasks) ∧
          ∀ cpu < t.nrCpus, ∃ c, e.core? cpu = some c ∧
            c.run.current? = (o cpu).bind fun pid =>
              if pid = 0 then none else some (pid, TaskState.urgency (e.task? pid)) := by
  obtain ⟨queues, -, hstart⟩ := exists_start t config tunables hints host
  refine ⟨_, hstart, fun calls hp o e ho he => ?_⟩
  have h := (Mirrors.start t config tunables hints host queues).afterAll hp
  rw [ho, he] at h
  exact ⟨h.once, fun d hd => h.load hd, fun cpu hcpu => h.core hcpu⟩

/-- A game and task zero begin to run, gaming goes out of favour, and a third task wakes up and is
gone. -/
def mixedRuns : List EngineCall :=
  let task (pid cpu : Nat) (name : String) : Task :=
    { pid := pid, tgid := pid, name := .ofString name, cpu := cpu, allowed := .firstN 2 }
  [.selectCpu (task 5 0 "wine64") 0, .enqueue (task 5 0 "wine64"), .running (task 5 0 "wine64"),
    .running (task 0 1 "idler"), .settings (some { gamingMode := false }),
    .selectCpu (task 7 0 "make") 0, .taskExit 7]

lemma permitsAll_mixedRuns : Occupancy.PermitsAll .twoDomains .empty mixedRuns := by
  have h₀ : ∀ pid, Occupancy.empty.Rests pid := Occupancy.rests_empty
  have h₁ : ((Occupancy.empty.set 0 (some 5)).set 1 (some 0)).Rests 7 :=
    ((h₀ 7).set (by decide)).set (by decide)
  exact ⟨h₀ 5, h₀ 5, ⟨by decide, rfl, h₀ 5⟩, ⟨by decide, rfl, (h₀ 0).set (by decide)⟩, trivial, h₁,
    h₁, trivial⟩

theorem books_say_what_runs_mixedRuns :
    Occupancy.PermitsAll .twoDomains .empty mixedRuns ∧
      (∃ l, (onTwoDomains.afterAll mixedRuns).load? 0 = some l ∧ l.tasks = 1 ∧ l.gaming = 1) ∧
      (∃ c, (onTwoDomains.afterAll mixedRuns).core? 0 = some c ∧
        c.run.current? = some (5, .gaming)) ∧
      ∃ c, (onTwoDomains.afterAll mixedRuns).core? 1 = some c ∧ c.run.current? = none := by
  obtain ⟨e₀, hstart, h⟩ := books_say_what_runs .twoDomains { taskCapacity := 0 } none {}
    (.ofTopology .twoDomains)
  obtain rfl : onTwoDomains = e₀ := Except.ok.inj (start_twoDomains.symm.trans hstart)
  obtain ⟨-, hloads, hcores⟩ := h mixedRuns permitsAll_mixedRuns _ _ rfl rfl
  obtain ⟨l, hl, htasks, hgaming, -⟩ := hloads 0 (by decide)
  obtain ⟨c, hc, hrun⟩ := hcores 0 (by decide)
  obtain ⟨c', hc', hrun'⟩ := hcores 1 (by decide)
  refine ⟨permitsAll_mixedRuns, ⟨l, hl, htasks.trans ?_, hgaming.trans ?_⟩,
    ⟨c, hc, hrun.trans ?_⟩, c', hc', hrun'.trans ?_⟩
  all_goals decide +kernel

end Engine

end CoreSteer
