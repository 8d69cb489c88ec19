import CoreSteer.Simulation.Basic
/-!
# What happens in a simulation

A thread that wakes up draws how long it will run.  It is put on the core that the engine chose for
it, or it waits in a dispatch queue, from which an idle core takes the next thread.  A run lasts no
longer than its slice, and a kick cuts it short; a thread that has to run on waits again, and one
that is done sleeps, or makes room for its successor.
-/
namespace CoreSteer.Simulation

variable {ρ : Type}

/-! ## Cores take up work -/

/-- Whether a thread waits for a core. -/
def isQueued (s : Simulation ρ) (pid : Nat) : Bool := s.threads[pid]?.any (·.phase == .queued)

/-- Whether a core exists and runs nothing. -/
def isFree (s : Simulation ρ) (cpu : Nat) : Bool := s.cores[cpu]?.any (·.run.isNone)

/-- The next thread for a core, with its slice: one that was put straight on the core, or else one
from a dispatch queue. -/
def nextFor (s : Simulation ρ) (cpu : Nat) : Option (Nat × Nat) × Simulation ρ :=
  match (s.cores[cpu]?.map (·.direct)).getD [] with
  | next :: rest => (some next, s.modifyCore cpu fun c => { c with direct := rest })
  | [] =>
    let (found, s) := s.askEngine (·.dispatch cpu)
    (found.map fun w => (w.pid, w.slice), s)

/-- A core begins to run a thread. -/
def begin (s : Simulation ρ) (cpu pid slice : Nat) : Simulation ρ :=
  match s.threads[pid]? with
  | none => s
  | some t =>
    let t := { t with task := { t.task with cpu := cpu }, phase := .running }
    let s := s.onEngine fun e => (e.onHost (·.setIdle cpu false)).running t.task
    let length := min t.remaining (max slice 1)
    let generation := ((s.cores[cpu]?.map (·.generation)).getD 0) + 1
    ((s.putThread pid t).modifyCore cpu fun c =>
      { c with run := some ⟨pid, s.now⟩, generation := generation }).schedule
        (s.later length) (.stop cpu generation)

/-- A core goes idle. -/
def rest (s : Simulation ρ) (cpu : Nat) : Simulation ρ :=
  s.onEngine (·.onHost (·.setIdle cpu true))

/-- A core passes over what does not wait any more, of at most `n` threads, and begins to run the
first one that does; without any it goes idle. -/
def pull (s : Simulation ρ) (cpu : Nat) : (n : Nat) → Simulation ρ
  | 0 => s.rest cpu
  | n + 1 =>
    match s.nextFor cpu with
    | (none, s) => s.rest cpu
    | (some (pid, slice), s) => if s.isQueued pid then s.begin cpu pid slice else s.pull cpu n

/-- How many threads a core may come upon. -/
def backlog (s : Simulation ρ) (cpu : Nat) : Nat :=
  ((s.cores[cpu]?.map (·.direct.length)).getD 0) + s.engine.queuedTotal

/-- A core that runs nothing takes up work, or goes idle. -/
def takeUp (s : Simulation ρ) (cpu : Nat) : Simulation ρ :=
  if s.isFree cpu then s.pull cpu (s.backlog cpu + 1) else s

/-- The first idle core that runs nothing, of those that a task may run on, takes up work. -/
def rouse (s : Simulation ρ) (task : Task) : Simulation ρ :=
  match (s.engine.host.idle ∩ task.allowed).toList.find? s.isFree with
  | some cpu => (s.onEngine (·.onHost fun h => (h.take cpu).2)).takeUp cpu
  | none => s

/-- A thread waits in a dispatch queue. -/
def await (s : Simulation ρ) (task : Task) : Simulation ρ := s.onEngine (·.enqueue task)

/-! ## Threads wake up -/

/-- Look up the profile of a thread the first time it wakes up, and put it in force. -/
def lookUp (s : Simulation ρ) (pid : Nat) : Simulation ρ :=
  match s.threads[pid]? with
  | none => s
  | some t =>
    if t.seen then s
    else
      let s := s.putThread pid { t with seen := true }
      match s.shelf.bind fun shelf => (shelf.matchTask? t.task.name.text).map fun p => (shelf, p)
        with
      | none => s
      | some (shelf, p) =>
        match shelf.activate p.name s.engine.tunables with
        | (false, _, _) => s
        | (true, shelf, tunables) =>
          { s with shelf := some shelf }.onEngine fun e =>
            (e.onMachine fun m => { m with tunables := tunables }).noteProfileMatch t.task

/-- The core that the engine chooses for a task, and where it put the task, if it did. -/
def choose (s : Simulation ρ) (task : Task) : (Nat × Option Placement) × Simulation ρ :=
  s.askEngine fun e =>
    let (cpu, e) := e.selectCpu task task.cpu
    let (placements, host) := e.host.takePlacements
    ((cpu, placements.find? (·.pid == task.pid)), e.onHost fun _ => host)

/-- A thread that wakes up finds its core, or waits for one. -/
def settle (s : Simulation ρ) (pid : Nat) (t : Thread) : Simulation ρ :=
  let ((cpu, placement), s) := s.choose t.task
  match placement with
  | some p =>
    let s := s.putThread pid { t with task := { t.task with cpu := p.cpu } }
    (s.modifyCore p.cpu fun c => { c with direct := c.direct ++ [(pid, p.slice)] }).takeUp p.cpu
  | none =>
    let task := { t.task with cpu := cpu }
    ((s.putThread pid { t with task := task }).await task).rouse task

variable [Random.DrawSource ρ]

/-- A thread wakes up, if it sleeps. -/
def wake (s : Simulation ρ) (pid : Nat) : Simulation ρ :=
  let s := s.lookUp pid
  match s.threads[pid]? with
  | none => s
  | some t =>
    if t.phase = .sleeping then
      let (burst, rng) := t.spec.run.draw s.rng
      { s with rng := rng }.settle pid { t with remaining := max burst 1, phase := .queued }
    else s

/-! ## Runs end -/

/-- The thread that takes the place of another one, under its own id. -/
def successor (spec : ThreadSpec) (pid : Nat) : ThreadSpec :=
  { spec with pid := pid, tgid := if spec.tgid = spec.pid then pid else spec.tgid }

/-- A thread ends, and another one takes its place. -/
def replace (s : Simulation ρ) (pid : Nat) (t : Thread) : Simulation ρ :=
  let s := s.onEngine fun e => (e.taskExit pid).onHost (·.removeProcess pid)
  { s with threads := s.threads.erase pid, nextPid := wrap32 (s.nextPid + 1) }.spawn
    (successor t.spec s.nextPid)

/-- Whether a thread has lived as long as it should. -/
def isExpired (s : Simulation ρ) (t : Thread) : Bool :=
  t.spec.lifetime.any fun life => decide (life ≤ s.now - t.bornAt)

/-- A thread is done: it sleeps, or makes room for its successor. -/
def retire (s : Simulation ρ) (pid : Nat) (t : Thread) : Simulation ρ :=
  let s := (s.putThread pid t).onEngine (·.stopping t.task false)
  if s.isExpired t then s.replace pid t
  else
    let (length, rng) := t.spec.sleep.draw s.rng
    ({ s with rng := rng }.putThread pid { t with phase := .sleeping }).schedule (s.later length)
      (.wake pid)

/-- A thread has to run on, and waits again. -/
def requeue (s : Simulation ρ) (pid : Nat) (t : Thread) : Simulation ρ :=
  ((s.putThread pid { t with phase := .queued }).onEngine (·.stopping t.task true)).await t.task

/-- A run ends, and the core takes up other work. -/
def endRun (s : Simulation ρ) (cpu : Nat) (run : Run) : Simulation ρ :=
  let s := s.modifyCore cpu fun c => { c with run := none }
  match s.threads[run.pid]? with
  | none => s.takeUp cpu
  | some t =>
    let t := { t with remaining := t.remaining - (s.now - run.startedAt) }
    if 0 < t.remaining then ((s.requeue run.pid t).takeUp cpu).rouse t.task
    else (s.retire run.pid t).takeUp cpu

/-- The run of a given generation ends, if it has not ended before. -/
def stop (s : Simulation ρ) (cpu generation : Nat) : Simulation ρ :=
  match s.cores[cpu]? with
  | none => s
  | some c =>
    match c.run with
    | none => s
    | some run => if c.generation = generation then s.endRun cpu run else s

/-! ## Ticks and kicks -/

/-- A core ticks: its level is drawn from a high range while it runs something. -/
def tickCore (s : Simulation ρ) (cpu : Nat) : Simulation ρ :=
  let busy := !s.isFree cpu
  let (level, rng) :=
    if busy then Random.DrawSource.draw32 800 fullSpeed s.rng
    else Random.DrawSource.draw32 200 600 s.rng
  { s with rng := rng }.onEngine fun e => (e.onHost (·.setPerf cpu level)).tick cpu

/-- All cores tick. -/
def tick (s : Simulation ρ) : Simulation ρ :=
  ((List.range s.cores.size).foldl tickCore s).schedule (s.later tickPeriod) .tick

omit [Random.DrawSource ρ] in
/-- A kick to give way ends the run of its core at once. -/
def heed (s : Simulation ρ) (k : Kick) : Simulation ρ :=
  match s.cores[k.cpu]? with
  | none => s
  | some c =>
    if k.flags.preempt && c.run.isSome then s.schedule s.now (.stop k.cpu c.generation) else s

omit [Random.DrawSource ρ] in
/-- Heed all kicks. -/
def heedKicks (s : Simulation ρ) : Simulation ρ :=
  let (kicks, s) := s.askEngine fun e =>
    let (kicks, host) := e.host.takeKicks
    (kicks, e.onHost fun _ => host)
  kicks.foldl heed s

/-- Something happens. -/
def happen (s : Simulation ρ) : Occurrence → Simulation ρ
  | .wake pid => s.wake pid
  | .stop cpu generation => s.stop cpu generation
  | .tick => s.tick

/-- An appointment falls due. -/
def keep (s : Simulation ρ) (a : Appointment) : Simulation ρ :=
  let s := { s with now := a.due }.onEngine (·.onHost fun h => { h with now := a.due })
  let s := (s.happen a.what).heedKicks
  { s with processed := s.processed + 1 }

end CoreSteer.Simulation
