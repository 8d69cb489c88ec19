import CoreSteer.Engine.Hooks
import CoreSteer.Proofs.Machine.Frame
import CoreSteer.Proofs.Task.Table
/-!
# What each call of the engine leaves alone

Every call of the engine has an `Engine.Result`: it says what becomes of the platform, of the
dispatch queues and of the `Books`, which are what the engine remembers of tasks and of what runs,
and in which counters the call may count.  Topology, settings, hints and the reason why the engine
stopped never change; what is measured of cores and what is reported may.  Where the books do not
matter, an `Engine.Outcome` leaves them open.
-/
namespace CoreSteer

namespace CounterSet

/-- The counters in which searching for a core for a task may count. -/
def searching : CounterSet := fun k => classification k || placement k

/-- The counters in which waking up a task may count. -/
def waking : CounterSet := fun k => searching k || k == .directDispatched

/-- No counter. -/
def nothing : CounterSet := fun _ => false

/-- The counters in which enqueueing a task may count beside that of tasks enqueued. -/
def attention : CounterSet
  | .gamingEnqueued | .interactiveEnqueued | .preemptKicks => true
  | _ => false

/-- The counters in which accounting for runs may count. -/
def accounting : CounterSet
  | .latencySumNs | .latencyCount | .latencyMaxNs | .latencyMinNs | .gamingLatencySumNs
  | .gamingLatencyCount | .gamingLatencySumSqUs | .gamingLateFrames | .gamingPreempted
  | .imbalanceEvents => true
  | _ => false

end CounterSet

/-! ## Choosing a core -/

namespace Host

lemma Searched.trans {h h₁ h₂ : Host} {allowed : CpuMask} {found : Option Nat}
    (h' : h.Searched allowed none h₁) (h'' : h₁.Searched allowed found h₂) :
    h.Searched allowed found h₂ := by
  obtain ⟨lost, rfl⟩ := h'
  obtain ⟨lost', h''⟩ := h''
  exact ⟨lost', by cases found <;> exact h''⟩

/-- The platform's own choice is a search, which stays with the previous core if it finds none. -/
lemma searched_choose (h : Host) (task : Task) (prev : Nat) :
    ∃ found, (h.choose task prev).1 = (found.getD prev, found.isSome) ∧
      h.Searched task.allowed found (h.choose task prev).2 := by
  unfold choose
  split
  · next hp =>
    rw [Bool.and_eq_true] at hp
    exact ⟨some prev, rfl, h.lost, hp.2, hp.1, rfl⟩
  · split
    · next cpu rest hl =>
      have hm : cpu ∈ h.idle ∩ task.allowed := by
        rw [← CpuMask.mem_toList, hl]
        exact List.mem_cons_self
      obtain ⟨hidle, hallowed⟩ := CpuMask.mem_inter.1 hm
      exact ⟨some cpu, rfl, h.lost, hidle, hallowed, rfl⟩
    · exact ⟨none, rfl, h.lost, rfl⟩

end Host

namespace Machine

lemma noted_refresh (m : Machine) (task : Task) (s : TaskState) (prev : Nat) :
    m.Noted .classification (m.refresh task s prev).2 :=
  m.noted_classify task s

end Machine

/-! ## Books -/

namespace Machine

/-- What is read off all cores after a change of one, where it changes along with the core. -/
lemma map_modifyCore {α : Type} (m : Machine) (cpu : Nat) {f : CoreState → CoreState}
    {p : CoreState → α} {g : α → α} (h : ∀ c, p (f c) = g (p c)) :
    (m.modifyCore cpu f).cores.map p = (m.cores.map p).modify cpu g := by
  refine Array.ext_getElem? fun i => ?_
  simp only [modifyCore, Array.getElem?_map, Array.getElem?_modify]
  split
  · simp only [Option.map_map]
    exact congrArg (fun k => m.cores[i]?.map k) (funext h)
  · rfl

lemma map_modifyCore_eq {α : Type} (m : Machine) (cpu : Nat) {f : CoreState → CoreState}
    {p : CoreState → α} (h : ∀ c, p (f c) = p c) :
    (m.modifyCore cpu f).cores.map p = m.cores.map p := by
  rw [m.map_modifyCore cpu (g := id) h]
  refine Array.ext_getElem? fun i => ?_
  simp [Array.getElem?_modify]

/-- What runs on each core. -/
def runs (m : Machine) : Array RunState := m.cores.map (·.run)

lemma runs_modifyCore (m : Machine) (cpu : Nat) {f : CoreState → CoreState}
    {g : RunState → RunState} (h : ∀ c, (f c).run = g c.run) :
    (m.modifyCore cpu f).runs = m.runs.modify cpu g :=
  m.map_modifyCore cpu h

/-- What a core runs does not depend on what is measured of it. -/
lemma runs_modifyCore_eq (m : Machine) (cpu : Nat) (f : CoreState → CoreState)
    (h : ∀ c, (f c).run = c.run) : (m.modifyCore cpu f).runs = m.runs :=
  m.map_modifyCore_eq cpu h

lemma topology_modifyCore (m : Machine) (cpu : Nat) (f : CoreState → CoreState) :
    (m.modifyCore cpu f).topology = m.topology := rfl

lemma runs_countEnqueue (m : Machine) (task : Task) : (m.countEnqueue task).runs = m.runs := by
  unfold countEnqueue
  exact runs_modifyCore_eq _ _ _ fun _ => rfl

lemma runs_countDispatch (m : Machine) (cpu : Nat) :
    (m.modifyCore cpu fun c =>
      { c with stats := { c.stats with dispatched := wrap64 (c.stats.dispatched + 1) } }).runs =
        m.runs :=
  runs_modifyCore_eq _ _ _ fun _ => rfl

lemma runs_countGamingEnqueue (m : Machine) (task : Task) :
    (m.countGamingEnqueue task).runs = m.runs := by
  unfold countGamingEnqueue
  exact runs_modifyCore_eq _ _ _ fun _ => rfl

end Machine

/-- What an engine remembers of tasks, and of what runs. -/
structure Books where
  /-- What runs in each domain. -/
  loads : Array DomainLoad
  /-- What runs on each core. -/
  runs : Array RunState
  /-- The tracked tasks. -/
  tasks : TaskTable

namespace Engine

/-- The books of an engine. -/
def books (e : Engine) : Books := ⟨e.loads, e.runs, e.tasks⟩

/-- The second engine is the first one with the given platform, queues and books; of counters, only
those of a set may differ. -/
def Result (p : CounterSet) (e : Engine) (host : Host) (queues : DispatchQueues) (books : Books)
    (e' : Engine) : Prop :=
  ∃ counters events cores, e.counters.SameBut p counters ∧ cores.map (·.run) = books.runs ∧
    e' = { e with
      host := host, queues := queues, counters := counters, events := events, cores := cores
      loads := books.loads, tasks := books.tasks }

/-- The second engine is the first one with the given platform and queues, and with any books; of
counters, only those of a set may differ. -/
def Outcome (p : CounterSet) (e : Engine) (host : Host) (queues : DispatchQueues) (e' : Engine) :
    Prop :=
  ∃ books, Result p e host queues books e'

variable {p : CounterSet} {e e' : Engine} {host : Host} {queues : DispatchQueues} {books : Books}

namespace Result

lemma books_eq (h : Result p e host queues books e') : e'.books = books := by
  obtain ⟨_, _, _, -, hr, rfl⟩ := h
  exact congrArg (fun runs => (⟨books.loads, runs, books.tasks⟩ : Books)) hr

lemma tasks_eq (h : Result p e host queues books e') : e'.tasks = books.tasks :=
  congrArg Books.tasks h.books_eq

lemma outcome (h : Result p e host queues books e') : Outcome p e host queues e' := ⟨_, h⟩

end Result

namespace Outcome

lemma host_eq (h : Outcome p e host queues e') : e'.host = host := by
  obtain ⟨_, _, _, _, -, -, rfl⟩ := h
  rfl

lemma queues_eq (h : Outcome p e host queues e') : e'.queues = queues := by
  obtain ⟨_, _, _, _, -, -, rfl⟩ := h
  rfl

lemma topology_eq (h : Outcome p e host queues e') : e'.topology = e.topology := by
  obtain ⟨_, _, _, _, -, -, rfl⟩ := h
  rfl

lemma tunables_eq (h : Outcome p e host queues e') : e'.tunables = e.tunables := by
  obtain ⟨_, _, _, _, -, -, rfl⟩ := h
  rfl

lemma counters_sameBut (h : Outcome p e host queues e') : e.counters.SameBut p e'.counters := by
  obtain ⟨_, _, _, _, hc, -, rfl⟩ := h
  exact hc

end Outcome

/-! ## Waking up -/

/-- The platform after a task was put straight on a core, if one was found for it. -/
def placed (e : Engine) (task : Task) (host : Host) : Option Nat → Host
  | none => host
  | some cpu => host.place task.pid cpu e.tunables.load.slice

/-- Refreshing what is known of a task and placing it searches for a core. -/
lemma searched_decide (m : Machine) (strategy : Strategy) (task : Task) (s : TaskState)
    (prev : Nat) :
    ∃ host counters events,
      m.host.Searched task.allowed
        ((m.refresh task s prev).2.place strategy task (m.refresh task s prev).1 prev).1 host ∧
      m.counters.SameBut .searching counters ∧
      ((m.refresh task s prev).2.place strategy task (m.refresh task s prev).1 prev).2 =
        { m with host := host, counters := counters, events := events } := by
  obtain ⟨c, ev, hc, hm⟩ := m.noted_refresh task s prev
  obtain ⟨host, hhost, d, ev', hd, hn⟩ :=
    (m.refresh task s prev).2.searched_place strategy task (m.refresh task s prev).1 prev
  rw [hm] at hhost hd hn
  refine ⟨host, d, ev', hm ▸ hhost, ?_, hm ▸ hn⟩
  have hc' : m.counters.SameBut .searching c :=
    hc.mono fun k hk => by simp [CounterSet.searching, hk]
  have hd' : c.SameBut .searching d := hd.mono fun k hk => by simp [CounterSet.searching, hk]
  exact hc'.trans hd'

/-- A task for which a search found a core, or none, is put there, or on the core that the platform
chooses.  It is counted if it is put on a core. -/
lemma searched_settle (e : Engine) (task : Task) (prev : Nat) {found : Option Nat} {start : Host}
    (h : start.Searched task.allowed found e.host) :
    ∃ found' host, (e.settle task prev found).1 = found'.getD prev ∧
      start.Searched task.allowed found' host ∧
      (e.settle task prev found).2 = e.onMachine fun m => { m with
        host := e.placed task host found'
        counters := e.counters.bumpIf found'.isSome .directDispatched } := by
  cases found with
  | some cpu => exact ⟨some cpu, e.host, rfl, h, rfl⟩
  | none =>
    obtain ⟨found, hanswer, hfound⟩ := e.host.searched_choose task prev
    rcases hc : e.host.choose task prev with ⟨answer, host⟩
    rw [hc] at hanswer hfound
    subst hanswer
    refine ⟨found, host, ?_, h.trans hfound, ?_⟩
    · simp only [settle, hc]
    · simp only [settle, hc]
      cases found <;> rfl

/-- Whatever core was found, the task is put on a core and that is counted, or neither; nobody is
kicked, and nothing else changes. -/
lemma exists_settle (e : Engine) (task : Task) (prev : Nat) (found : Option Nat) :
    ∃ host counted, host.kicks = e.host.kicks ∧
      (e.settle task prev found).2 = e.onMachine fun m =>
        { m with host := host, counters := m.counters.bumpIf counted .directDispatched } := by
  cases found with
  | some cpu => exact ⟨e.host.place task.pid cpu e.tunables.load.slice, true, rfl, rfl⟩
  | none =>
    obtain ⟨_, -, hsearch⟩ := e.host.searched_choose task prev
    have hkicks := hsearch.kicks_eq
    rcases hc : e.host.choose task prev with ⟨⟨cpu, idle⟩, host⟩
    rw [hc] at hkicks
    simp only [settle, hc]
    cases idle with
    | false => exact ⟨host, false, hkicks, rfl⟩
    | true => exact ⟨host.place task.pid cpu e.tunables.load.slice, true, hkicks, rfl⟩

/-- Waking up a task searches for a core, puts the task there if one is found, and otherwise names
the previous core.  A task that is put on a core is counted.  Of the books only what is remembered
of the task may differ. -/
lemma result_selectCpu (e : Engine) (task : Task) (prev : Nat) :
    ∃ found host tasks, (e.selectCpu task prev).1 = found.getD prev ∧
      e.host.Searched task.allowed found host ∧ e.tasks.Revised task.pid tasks ∧
      Result .searching { e with counters := e.counters.bumpIf found.isSome .directDispatched }
        (e.placed task host found) e.queues { e.books with tasks := tasks }
        (e.selectCpu task prev).2 := by
  rcases e with ⟨m, tasks, queues, reason⟩
  unfold selectCpu
  dsimp only
  split
  · next s core hs hcore =>
    obtain ⟨host, counters, events, hhost, hcounters, hm⟩ :=
      searched_decide m (.forTopology m.topology) task s prev
    dsimp only [strategy, onTasks, onMachine]
    rw [hm]
    obtain ⟨found, host', hanswer, hfound, hsettled⟩ := searched_settle
      ⟨{ m with host := host, counters := counters, events := events },
        (tasks.track task.pid).put task.pid (m.refresh task s prev).1, queues, reason⟩ task prev hhost
    refine ⟨found, host', (tasks.track task.pid).put task.pid (m.refresh task s prev).1, hanswer,
      hfound, .inr ⟨_, rfl⟩, ?_⟩
    rw [hsettled]
    exact ⟨_, _, _, hcounters.bumpIf_both _ _, rfl, rfl⟩
  · exact ⟨none, m.host, tasks.track task.pid, rfl, ⟨m.host.lost, rfl⟩, .inl rfl,
      _, _, _, .refl _ _, rfl, rfl⟩

lemma outcome_selectCpu (e : Engine) (task : Task) (prev : Nat) :
    ∃ found host, (e.selectCpu task prev).1 = found.getD prev ∧
      e.host.Searched task.allowed found host ∧
      Outcome .waking e (e.placed task host found) e.queues (e.selectCpu task prev).2 := by
  obtain ⟨found, host, tasks, hanswer, hfound, -, _, _, _, hc, hr, he⟩ :=
    e.result_selectCpu task prev
  refine ⟨found, host, hanswer, hfound, _, _, _, _, ?_, hr, he⟩
  exact ((Counters.SameBut.refl .waking e.counters).bumpIf rfl _).trans
    (hc.mono fun k hk => by simp [CounterSet.waking, hk])

/-! ## Waiting -/

/-- Attending to a task that is enqueued counts, reports, and may kick a core. -/
lemma attend_eq (m : Machine) (task : Task) (flags : TaskFlags) :
    ∃ kicks counters cores events, m.counters.SameBut .attention counters ∧
      cores.map (·.run) = m.runs ∧
      m.attend task flags = { m with
        host := { m.host with kicks := kicks }, counters := counters, cores := cores
        events := events } := by
  have h₀ := Counters.SameBut.refl .attention m.counters
  have hr := m.runs_countGamingEnqueue task
  unfold Machine.attend
  dsimp only
  split
  · split
    · unfold Machine.kickVictim
      split
      · exact ⟨_, _, _, _, h₀.bump rfl, hr, rfl⟩
      · exact ⟨_, _, _, _, (h₀.bump rfl).bump rfl, hr, rfl⟩
    · exact ⟨_, _, _, _, h₀.bump rfl, hr, rfl⟩
  · split
    · exact ⟨_, _, _, _, h₀.bump rfl, rfl, rfl⟩
    · exact ⟨_, _, _, _, h₀, rfl, rfl⟩

/-- The key of a task that is enqueued now. -/
def keyFor (e : Engine) (task : Task) : Nat :=
  match (e.tasks.track task.pid).get? task.pid with
  | none => 0
  | some s => queueKey s.flags.gaming s.flags.interactive s.burst

/-- Enqueueing a task counts it, puts one entry for it in one queue, and may kick cores.  Of the
books only what is remembered of the task may differ. -/
lemma result_enqueue (e : Engine) (task : Task) :
    ∃ id kicks tasks, e.tasks.Revised task.pid tasks ∧
      Result .attention (e.onMachine (·.bump .enqueued)) { e.host with kicks := kicks }
        (e.queues.insert id task.pid e.tunables.load.slice (e.keyFor task))
        { e.books with tasks := tasks } (e.enqueue task) := by
  rcases e with ⟨m, tasks, queues, reason⟩
  have hr := m.runs_countEnqueue task
  unfold enqueue keyFor
  dsimp only [onMachine, onTasks, task?]
  rcases (tasks.track task.pid).get? task.pid with _ | s
  · exact ⟨_, m.host.kicks, tasks.track task.pid, .inl rfl, _, _, _, .refl _ _, hr, rfl⟩
  · obtain ⟨kicks, counters, cores, events, hc, hcores, hm⟩ :=
      attend_eq (m.countEnqueue task) task s.flags
    dsimp only
    rw [hm]
    exact ⟨_, kicks, (tasks.track task.pid).put task.pid _, .inr ⟨_, rfl⟩, _, _, _, hc,
      hcores.trans hr, rfl⟩

lemma outcome_enqueue (e : Engine) (task : Task) :
    ∃ id kicks, Outcome .attention (e.onMachine (·.bump .enqueued)) { e.host with kicks := kicks }
      (e.queues.insert id task.pid e.tunables.load.slice (e.keyFor task)) (e.enqueue task) := by
  obtain ⟨id, kicks, tasks, -, h⟩ := e.result_enqueue task
  exact ⟨id, kicks, h.outcome⟩

/-! ## Handing out tasks -/

/-- A core that finds a task takes its entry out of the queues, and counts it. -/
lemma result_dispatch_some (e : Engine) {cpu : Nat} {w : Waiting} {queues : DispatchQueues}
    (h : e.queues.popFirst? (drainOrder e.topology cpu) = some (w, queues)) :
    (e.dispatch cpu).1 = some w ∧
      Result .nothing (e.onMachine (·.bump .dispatched)) e.host queues e.books
        (e.dispatch cpu).2 := by
  rcases e with ⟨m, tasks, queues', reason⟩
  have h' : queues'.popFirst? (drainOrder m.topology cpu) = some (w, queues) := h
  simp only [dispatch, onMachine, Machine.topology_modifyCore, h']
  exact ⟨trivial, _, _, _, .refl _ _, m.runs_countDispatch cpu, rfl⟩

/-- A core that finds no task leaves the queues as they are. -/
lemma result_dispatch_none (e : Engine) {cpu : Nat}
    (h : e.queues.popFirst? (drainOrder e.topology cpu) = none) :
    (e.dispatch cpu).1 = none ∧
      Result .nothing e e.host e.queues e.books (e.dispatch cpu).2 := by
  rcases e with ⟨m, tasks, queues, reason⟩
  have h' : queues.popFirst? (drainOrder m.topology cpu) = none := h
  simp only [dispatch, onMachine, Machine.topology_modifyCore, h']
  exact ⟨trivial, _, _, _, .refl _ _, m.runs_countDispatch cpu, rfl⟩

lemma outcome_dispatch_some (e : Engine) {cpu : Nat} {w : Waiting} {queues : DispatchQueues}
    (h : e.queues.popFirst? (drainOrder e.topology cpu) = some (w, queues)) :
    (e.dispatch cpu).1 = some w ∧
      Outcome .nothing (e.onMachine (·.bump .dispatched)) e.host queues (e.dispatch cpu).2 :=
  (e.result_dispatch_some h).imp_right Result.outcome

lemma outcome_dispatch_none (e : Engine) {cpu : Nat}
    (h : e.queues.popFirst? (drainOrder e.topology cpu) = none) :
    (e.dispatch cpu).1 = none ∧ Outcome .nothing e e.host e.queues (e.dispatch cpu).2 :=
  (e.result_dispatch_none h).imp_right Result.outcome

lemma dispatch_eq_none_iff_popFirst? (e : Engine) {cpu : Nat} :
    (e.dispatch cpu).1 = none ↔ e.queues.popFirst? (drainOrder e.topology cpu) = none := by
  rcases hp : e.queues.popFirst? (drainOrder e.topology cpu) with _ | ⟨w, queues⟩
  · simp [(e.outcome_dispatch_none hp).1]
  · simp [(e.outcome_dispatch_some hp).1]

end Engine

/-! ## Accounting -/

namespace Counters.SameBut

variable {p : CounterSet} {c d : Counters}

lemma set (h : SameBut p c d) {k : Counter} (hk : p k = true) (n : Nat) :
    SameBut p c (d.set k n) := by
  intro j hj
  have hne : j ≠ k := by
    rintro rfl
    simp [hk] at hj
  rw [Ledger.get_set_of_ne _ _ hne]
  exact h j hj

lemma wait (h : SameBut .accounting c d) (latency : Nat) :
    SameBut .accounting c (d.wait latency) :=
  (((h.add rfl _).bump rfl).set rfl _).set rfl _

lemma waitGaming (h : SameBut .accounting c d) (latency : Nat) :
    SameBut .accounting c (d.waitGaming latency) :=
  (((h.add rfl _).bump rfl).add rfl _).bumpIf rfl _

end Counters.SameBut

namespace Machine

/-- The second machine is the first one after something was measured: what runs is the same. -/
def Measured (m n : Machine) : Prop :=
  ∃ counters cores events, m.counters.SameBut .accounting counters ∧ cores.map (·.run) = m.runs ∧
    n = { m with counters := counters, cores := cores, events := events }

namespace Measured

variable {l m n : Machine}

lemma refl (m : Machine) : Measured m m := ⟨_, _, _, .refl _ _, rfl, rfl⟩

lemma trans (h : Measured l m) (h' : Measured m n) : Measured l n := by
  obtain ⟨_, _, _, hc, hr, rfl⟩ := h
  obtain ⟨_, _, _, hc', hr', rfl⟩ := h'
  exact ⟨_, _, _, hc.trans hc', hr'.trans hr, rfl⟩

lemma host_eq (h : Measured m n) : n.host = m.host := by
  obtain ⟨_, _, _, -, -, rfl⟩ := h
  rfl

lemma bump (h : Measured l m) {k : Counter} (hk : CounterSet.accounting k = true) :
    Measured l (m.bump k) :=
  h.trans ⟨_, _, _, (Counters.SameBut.refl _ _).bump hk, rfl, rfl⟩

lemma emit (h : Measured l m) (e : SchedEvent) : Measured l (m.emit e) :=
  h.trans ⟨_, _, _, .refl _ _, rfl, rfl⟩

end Measured

lemma measured_modifyCore (m : Machine) (cpu : Nat) (f : CoreState → CoreState)
    (h : ∀ c, (f c).run = c.run) : m.Measured (m.modifyCore cpu f) :=
  ⟨_, _, _, .refl _ _, m.runs_modifyCore_eq cpu f h, rfl⟩

lemma measured_accountWait (m : Machine) (task : Task) (gaming : Bool) (latency : Nat) :
    m.Measured (m.accountWait task gaming latency) := by
  have hw := (Counters.SameBut.refl .accounting m.counters).wait latency
  have hr := m.runs_modifyCore_eq task.cpu (fun c => { c with stats := c.stats.wait latency })
    fun _ => rfl
  unfold accountWait
  dsimp only
  split
  · split
    · exact ⟨_, _, _, hw.waitGaming latency, hr, rfl⟩
    · exact ⟨_, _, _, hw.waitGaming latency, hr, rfl⟩
  · exact ⟨_, _, _, hw, hr, rfl⟩

lemma measured_checkImbalance (m : Machine) : m.Measured m.checkImbalance := by
  have hreport : ∀ heavy light, m.Measured (m.reportImbalance heavy light) :=
    fun heavy light => ((Measured.refl m).bump rfl).emit _
  unfold checkImbalance
  split
  · exact .refl m
  · split
    · exact hreport _ _
    · split
      · exact hreport _ _
      · exact .refl m

lemma modifyLoadAt_eq (m : Machine) (cpu : Nat) (f : DomainLoad → DomainLoad) :
    m.modifyLoadAt cpu f = { m with loads := (m.modifyLoadAt cpu f).loads } := by
  unfold modifyLoadAt
  split <;> rfl

/-- The load at a core depends on no measurement. -/
lemma Measured.loads_modifyLoadAt {m n : Machine} (h : m.Measured n) (cpu : Nat)
    (f : DomainLoad → DomainLoad) : (n.modifyLoadAt cpu f).loads = (m.modifyLoadAt cpu f).loads := by
  obtain ⟨_, _, _, -, -, rfl⟩ := h
  unfold modifyLoadAt
  dsimp only
  split <;> rfl

end Machine

namespace Engine

/-- The books after a task of a given urgency began to run. -/
def booksBegun (e : Engine) (task : Task) (urgency : Urgency) (tasks : TaskTable) : Books where
  loads := (e.modifyLoadAt task.cpu (·.start (urgency == .gaming))).loads
  runs := e.runs.modify task.cpu fun _ => .begin urgency task.pid e.host.now
  tasks := tasks

/-- The books after a task ended its run. -/
def booksEnded (e : Engine) (task : Task) (gaming : Bool) (tasks : TaskTable) : Books where
  loads := (e.modifyLoadAt task.cpu (·.stop gaming)).loads
  runs := e.runs.modify task.cpu fun r => (r.clearIf task.pid).2
  tasks := tasks

lemma result_measured (e : Engine) {n : Machine} (h : e.toMachine.Measured n) :
    Result .accounting e e.host e.queues e.books ⟨n, e.tasks, e.queues, e.exitReason⟩ := by
  rcases e with ⟨m, tasks, queues, reason⟩
  obtain ⟨_, _, _, hc, hr, rfl⟩ := h
  exact ⟨_, _, _, hc, hr, rfl⟩

/-- After something was measured, the load at a core and what the core runs may be changed. -/
lemma result_change (e : Engine) {n : Machine} (h : e.toMachine.Measured n) (cpu : Nat)
    (load : DomainLoad → DomainLoad) {f : CoreState → CoreState} {g : RunState → RunState}
    (hg : ∀ c, (f c).run = g c.run) (tasks : TaskTable) :
    Result .accounting e e.host e.queues
      ⟨(e.modifyLoadAt cpu load).loads, e.runs.modify cpu g, tasks⟩
      ⟨(n.modifyLoadAt cpu load).modifyCore cpu f, tasks, e.queues, e.exitReason⟩ := by
  rcases e with ⟨m, _, queues, reason⟩
  have hloads := h.loads_modifyLoadAt cpu load
  have hruns := n.runs_modifyCore cpu hg
  rw [n.modifyLoadAt_eq, hloads]
  obtain ⟨_, _, _, hc, hr, rfl⟩ := h
  exact ⟨_, _, _, hc, hruns.trans (congrArg (Array.modify · cpu g) hr), rfl⟩

/-- A task that begins to run counts in the load at its core, and the core runs it. -/
lemma result_running (e : Engine) (task : Task) :
    Result .accounting e e.host e.queues
      (e.booksBegun task (TaskState.urgency (e.task? task.pid))
        (e.tasks.modify task.pid fun s => { s with lastRunAt := e.host.now, enqueuedAt := 0 }))
      (e.running task) := by
  rcases e with ⟨m, tasks, queues, reason⟩
  have hbegin : ∀ {n : Machine}, m.Measured n → ∀ urgency tasks',
      Result .accounting ⟨m, tasks, queues, reason⟩ m.host queues
        (booksBegun ⟨m, tasks, queues, reason⟩ task urgency tasks')
        ⟨n.beginRun task urgency, tasks', queues, reason⟩ := by
    intro n hn urgency tasks'
    refine result_change ⟨m, tasks, queues, reason⟩ hn _ _ (fun c => ?_) _
    rw [hn.host_eq]
    rfl
  unfold running TaskTable.modify
  dsimp only [task?]
  rcases tasks.get? task.pid with _ | s
  · exact hbegin (.refl m) _ _
  · dsimp only
    split
    · exact hbegin (m.measured_accountWait task s.flags.gaming (m.host.now - s.enqueuedAt)) _ _
    · exact hbegin (.refl m) _ _

/-- A task that ends its run does not count in the load at its core any more, and the core does not
run it any more. -/
lemma result_stopping (e : Engine) (task : Task) (runnable : Bool) :
    Result .accounting e e.host e.queues
      (e.booksEnded task (TaskState.isGaming (e.task? task.pid))
        (e.tasks.modify task.pid (·.stop e.host.now runnable)))
      (e.stopping task runnable) := by
  rcases e with ⟨m, tasks, queues, reason⟩
  refine result_change ⟨m, tasks, queues, reason⟩ ?_ _ _ (fun _ => rfl) _
  split
  · exact (Machine.Measured.refl m).bump rfl
  · exact .refl m

lemma result_tick (e : Engine) (cpu : Nat) :
    Result .accounting e e.host e.queues e.books (e.tick cpu) := by
  rcases e with ⟨m, tasks, queues, reason⟩
  unfold tick
  split
  · exact result_measured _ (.refl m)
  · refine result_measured ⟨m, tasks, queues, reason⟩ ?_
    have hsample : m.Measured
        (m.modifyCore cpu fun c => { c with perf := c.perf.sample (m.host.perfOf cpu) m.host.now }) :=
      m.measured_modifyCore cpu _ fun _ => rfl
    dsimp only
    split
    · exact hsample.trans (Machine.measured_checkImbalance _)
    · exact hsample

lemma outcome_running (e : Engine) (task : Task) :
    Outcome .accounting e e.host e.queues (e.running task) :=
  (e.result_running task).outcome

lemma outcome_stopping (e : Engine) (task : Task) (runnable : Bool) :
    Outcome .accounting e e.host e.queues (e.stopping task runnable) :=
  (e.result_stopping task runnable).outcome

lemma outcome_tick (e : Engine) (cpu : Nat) :
    Outcome .accounting e e.host e.queues (e.tick cpu) :=
  (e.result_tick cpu).outcome

/-! ## Leaving -/

lemma result_noteProfileMatch (e : Engine) (task : Task) :
    Result .nothing e e.host e.queues e.books (e.noteProfileMatch task) := by
  rcases e with ⟨m, tasks, queues, reason⟩
  exact ⟨_, _, _, .refl _ _, rfl, rfl⟩

lemma result_taskExit (e : Engine) (pid : Nat) :
    Result .nothing e e.host (e.queues.remove pid) { e.books with tasks := e.tasks.remove pid }
      (e.taskExit pid) := by
  rcases e with ⟨m, tasks, queues, reason⟩
  exact ⟨_, _, _, .refl _ _, rfl, rfl⟩

lemma outcome_noteProfileMatch (e : Engine) (task : Task) :
    Outcome .nothing e e.host e.queues (e.noteProfileMatch task) :=
  (e.result_noteProfileMatch task).outcome

lemma outcome_taskExit (e : Engine) (pid : Nat) :
    Outcome .nothing e e.host (e.queues.remove pid) (e.taskExit pid) :=
  (e.result_taskExit pid).outcome

end Engine

end CoreSteer
