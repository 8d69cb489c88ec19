import CoreSteer.Proofs.Engine.Tracking
import CoreSteer.Proofs.Simulation.Parts
import Mathlib.Logic.Relation
/-!
# Whatever happens is made of deeds

Between one event and the next the engine is called, threads and cores are written, appointments are
made, and numbers are drawn.  A `Deed` is one such change, with what is known of it: the engine is
called for threads only, a thread stays who it is, and an appointment is made for now or for the end
of a length of time that somebody is allotted.  Besides, one thread may make room for another one.

`Happens` says that a state comes of another one by deeds and at most one replacement, and
`happens_keep` that this is so of every event, whatever the state is.  What is to hold of all states
has to be looked at for each deed and for a replacement, and for nothing else (`Happens.preserves`).
-/
namespace CoreSteer

variable {ρ : Type} [Random.DrawSource ρ]

/-- A thread stays who it is; it has not more to run than before, unless it draws anew. -/
structure Thread.GoesOnAs (ρ : Type) [Random.DrawSource ρ] (t u : Thread) : Prop where
  /-- It behaves as before. -/
  spec : u.spec = t.spec
  /-- The engine sees it under the same id. -/
  pid : u.task.pid = t.task.pid
  /-- It may run on the same cores. -/
  allowed : u.task.allowed = t.task.allowed
  /-- It has not more to run, or what it has to run was drawn. -/
  remaining : u.remaining ≤ t.remaining ∨
    ∃ rng : ρ, u.remaining = max (t.spec.run.draw rng).1 1

namespace Simulation

variable {s s' s'' : Simulation ρ} {pid cpu : Nat} {t u : Thread}

/-- A length of time for which somebody may wait. -/
inductive Allots (s : Simulation ρ) : Nat → Prop
  /-- It is the time from one tick to the next. -/
  | period : Allots s tickPeriod
  /-- A thread draws how long it sleeps. -/
  | sleep {pid : Nat} {t : Thread} (h : s.threads[pid]? = some t) (rng : ρ) :
      Allots s (t.spec.sleep.draw rng).1
  /-- A thread runs, no longer than it has to. -/
  | run {pid : Nat} {t : Thread} {length : Nat} (h : s.threads[pid]? = some t)
      (hle : length ≤ t.remaining) : Allots s length

/-- The engine knows some thread under an id. -/
def Knows (s : Simulation ρ) (p : Nat) : Prop :=
  ∃ (pid : Nat) (t : Thread), s.threads[pid]? = some t ∧ t.task.pid = p

/-- One small change of a simulation. -/
inductive Deed : Simulation ρ → Simulation ρ → Prop
  /-- Something happens to the engine; if it comes to track somebody by that, then a thread. -/
  | call (s : Simulation ρ) (c : EngineCall) (h : ∀ p, c.tracks? = some p → s.Knows p) :
      Deed s { s with engine := s.engine.after c }
  /-- The state of a thread is written. -/
  | write (s : Simulation ρ) {pid : Nat} {t u : Thread} (ht : s.threads[pid]? = some t)
      (h : t.GoesOnAs ρ u) : Deed s (s.putThread pid u)
  /-- A core is written. -/
  | core (s : Simulation ρ) (cpu : Nat) (f : SimCore → SimCore) : Deed s (s.modifyCore cpu f)
  /-- Something is put on the agenda for the end of a length of time. -/
  | plan (s : Simulation ρ) {length : Nat} (h : s.Allots length) (what : Occurrence) :
      Deed s (s.schedule (s.later length) what)
  /-- Something is put on the agenda for now. -/
  | urge (s : Simulation ρ) (what : Occurrence) : Deed s (s.schedule s.now what)
  /-- Numbers are drawn. -/
  | draw (s : Simulation ρ) (rng : ρ) : Deed s { s with rng := rng }
  /-- The profiles that are to be looked up are written. -/
  | shelve (s : Simulation ρ) (shelf : Option Shelf) : Deed s { s with shelf := shelf }
  /-- What has happened is counted. -/
  | count (s : Simulation ρ) (n : Nat) : Deed s { s with processed := n }

/-- Any number of small changes. -/
def Deeds : Simulation ρ → Simulation ρ → Prop := Relation.ReflTransGen Deed

/-- Small changes, among which one thread may have made room for another one. -/
inductive Happens (s s' : Simulation ρ) : Prop
  /-- Nobody made room. -/
  | quietly (h : Deeds s s')
  /-- One thread made room. -/
  | replacing {s₁ : Simulation ρ} {pid : Nat} {t : Thread} (h : Deeds s s₁)
      (ht : s₁.threads[pid]? = some t) (h' : Deeds (s₁.replace pid t) s')

/-! ## What holds after them -/

/-- What every small change preserves holds after any number of them. -/
lemma Deeds.preserves {I : Simulation ρ → Prop} (hdeed : ∀ s s', Deed s s' → I s → I s')
    (h : Deeds s s') (hs : I s) : I s' := by
  induction h with
  | refl => exact hs
  | tail _ hlast ih => exact hdeed _ _ hlast ih

/-- What every small change and every replacement preserve holds after all that happens. -/
lemma Happens.preserves {I : Simulation ρ → Prop} (hdeed : ∀ s s', Deed s s' → I s → I s')
    (hreplace : ∀ (s : Simulation ρ) pid t, s.threads[pid]? = some t → I s → I (s.replace pid t))
    (h : s.Happens s') (hs : I s) : I s' := by
  cases h with
  | quietly h => exact h.preserves hdeed hs
  | replacing h ht h' =>
    exact h'.preserves hdeed (hreplace _ _ _ ht (h.preserves hdeed hs))

namespace Deeds

lemma refl (s : Simulation ρ) : s.Deeds s := Relation.ReflTransGen.refl

lemma trans (h : s.Deeds s') (h' : s'.Deeds s'') : s.Deeds s'' := Relation.ReflTransGen.trans h h'

lemma of_deed (h : s.Deed s') : s.Deeds s' := Relation.ReflTransGen.single h

/-- The clock does not move while something happens. -/
lemma now_eq (h : s.Deeds s') : s'.now = s.now := by
  refine h.preserves (I := fun u => u.now = s.now) (fun u u' hu heq => ?_) rfl
  cases hu <;> exact heq

lemma onHost (s : Simulation ρ) (f : Host → Host) : s.Deeds (s.onEngine (·.onHost f)) :=
  of_deed (.call s (.platform (f s.engine.host)) nofun)

/-- Something is written of a thread, but not what it has to run. -/
lemma write (ht : s.threads[pid]? = some t) (hspec : u.spec = t.spec)
    (hpid : u.task.pid = t.task.pid) (hallowed : u.task.allowed = t.task.allowed)
    (hle : u.remaining ≤ t.remaining) : s.Deeds (s.putThread pid u) :=
  of_deed (.write s ht ⟨hspec, hpid, hallowed, .inl hle⟩)

/-! ### Cores take up work -/

lemma begin (s : Simulation ρ) (cpu pid slice : Nat) : s.Deeds (s.begin cpu pid slice) := by
  cases ht : s.threads[pid]? with
  | none => rw [begin_eq_self ht]; exact .refl s
  | some t =>
    rw [begin_eq ht]
    have hcall : s.Deeds (s.onEngine fun e => (e.onHost (·.setIdle cpu false)).running
        { t.task with cpu := cpu }) :=
      (onHost s (·.setIdle cpu false)).trans
        (of_deed (.call _ (.running { t.task with cpu := cpu }) nofun))
    have hwrite := write (s := s.onEngine fun e => (e.onHost (·.setIdle cpu false)).running
      { t.task with cpu := cpu }) (u := { t with
        task := { t.task with cpu := cpu }, phase := .running }) ht rfl rfl rfl (Nat.le_refl _)
    refine (hcall.trans hwrite).trans ((of_deed (.core _ cpu _)).trans (of_deed (.plan _ ?_ _)))
    exact .run (threads_putThread_self _ pid _) (Nat.min_le_left _ _)

lemma nextFor (s : Simulation ρ) (cpu : Nat) : s.Deeds (s.nextFor cpu).2 := by
  rcases s.nextFor_cases cpu with ⟨next, rest, -, heq⟩ | ⟨-, heq⟩
  · rw [heq]
    exact of_deed (.core s cpu _)
  · rw [heq]
    exact of_deed (.call s (.dispatch cpu) nofun)

lemma pull (s : Simulation ρ) (cpu n : Nat) : s.Deeds (s.pull cpu n) := by
  induction n generalizing s with
  | zero => exact onHost s _
  | succ n ih =>
    have hnext := nextFor s cpu
    unfold Simulation.pull
    split
    · next s' hs =>
      rw [hs] at hnext
      exact hnext.trans (onHost s' _)
    · next pid slice s' hs =>
      rw [hs] at hnext
      split
      · exact hnext.trans (.begin s' cpu pid slice)
      · exact hnext.trans (ih s')

lemma takeUp (s : Simulation ρ) (cpu : Nat) : s.Deeds (s.takeUp cpu) := by
  unfold Simulation.takeUp
  split
  · exact .pull s cpu _
  · exact .refl s

lemma rouse (s : Simulation ρ) (task : Task) : s.Deeds (s.rouse task) := by
  rcases s.rouse_cases task with ⟨cpu, -, -, -, heq⟩ | ⟨-, heq⟩
  · rw [heq]
    exact (onHost s _).trans (.takeUp _ cpu)
  · rw [heq]
    exact .refl s

/-- A thread comes to wait. -/
lemma await {task : Task} (h : s.Knows task.pid) : s.Deeds (s.await task) :=
  of_deed (.call s (.enqueue task) fun _ hp => Option.some.inj hp ▸ h)

/-! ### Threads wake up -/

lemma lookUp (s : Simulation ρ) (pid : Nat) : s.Deeds (s.lookUp pid) := by
  rcases s.lookUp_cases pid with ⟨-, heq⟩ | ⟨t, ht, heq | ⟨shelf, tunables, heq⟩⟩
  · rw [heq]
    exact .refl s
  · rw [heq]
    exact write ht rfl rfl rfl (Nat.le_refl _)
  · rw [heq]
    refine (write (u := { t with seen := true }) ht rfl rfl rfl (Nat.le_refl _)).trans ?_
    refine (of_deed (.shelve _ (some shelf))).trans ?_
    refine (of_deed (.call _ (.settings tunables) nofun)).trans ?_
    exact of_deed (.call _ (.noteProfileMatch t.task) nofun)

/-- A thread settles down that draws how long it is to run, or has that still to run. -/
lemma settle (ht : s.threads[pid]? = some t) (h : t.GoesOnAs ρ u) :
    s.Deeds (s.settle pid u) := by
  have hknows : s.Knows u.task.pid := ⟨pid, t, ht, h.pid.symm⟩
  have hchoose : s.Deeds (s.choose u.task).2 := by
    rw [choose_snd]
    refine (of_deed (.call s (.selectCpu u.task u.task.cpu) ?_)).trans (onHost _ fun _ => _)
    exact fun _ hp => Option.some.inj hp ▸ hknows
  have hput : ∀ cpu, s.Deeds ((s.choose u.task).2.putThread pid
      { u with task := { u.task with cpu := cpu } }) := fun cpu =>
    hchoose.trans (of_deed (.write _ ht ⟨h.spec, h.pid, h.allowed, h.remaining⟩))
  unfold Simulation.settle
  dsimp only
  split
  · next p _ => exact (hput p.cpu).trans ((of_deed (.core _ p.cpu _)).trans (.takeUp _ p.cpu))
  · refine (hput _).trans (.trans (.await ?_) (.rouse _ _))
    exact ⟨pid, _, threads_putThread_self _ pid _, rfl⟩

lemma wake (s : Simulation ρ) (pid : Nat) : s.Deeds (s.wake pid) := by
  rcases s.wake_cases pid with ⟨t, ht, -, heq⟩ | ⟨-, heq⟩
  · rw [heq]
    refine (lookUp s pid).trans ((of_deed (.draw _ _)).trans (.settle ht ⟨rfl, rfl, rfl, ?_⟩))
    exact .inr ⟨_, rfl⟩
  · rw [heq]
    exact .lookUp s pid

/-! ### Runs end, cores tick and are kicked -/

lemma afterRun (ht : s.threads[pid]? = some t) (hspec : u.spec = t.spec)
    (hpid : u.task.pid = t.task.pid) (hallowed : u.task.allowed = t.task.allowed)
    (hle : u.remaining ≤ t.remaining) (runnable : Bool) :
    s.Deeds (s.afterRun pid u runnable) :=
  (write ht hspec hpid hallowed hle).trans (of_deed (.call _ (.stopping u.task runnable) nofun))

lemma requeue (ht : s.threads[pid]? = some t) (length : Nat) :
    s.Deeds (s.requeue pid (t.ranFor length)) := by
  rw [requeue_eq]
  refine (afterRun (u := { t.ranFor length with phase := .queued }) ht rfl rfl rfl
    (Nat.sub_le _ _) true).trans (.await ?_)
  exact ⟨pid, _, threads_putThread_self s pid _, rfl⟩

lemma tick (s : Simulation ρ) : s.Deeds s.tick := by
  obtain ⟨rng, e, he, heq⟩ := s.tick_eq (P := fun e => s.Deeds { s with engine := e }) (.refl s)
    fun e cpu level he =>
      he.trans ((onHost _ (·.setPerf cpu level)).trans (of_deed (.call _ (.tick cpu) nofun)))
  rw [heq]
  exact he.trans ((of_deed (.draw _ rng)).trans (of_deed (.plan _ .period _)))

lemma heed (s : Simulation ρ) (k : Kick) : s.Deeds (s.heed k) := by
  rcases s.heed_cases k with heq | ⟨r, g, -, heq⟩
  · rw [heq]
    exact .refl s
  · rw [heq]
    exact of_deed (.urge s _)

lemma heedKicks (s : Simulation ρ) : s.Deeds s.heedKicks :=
  s.heedKicks_rec (onHost s _) fun _ hs k _ => hs.trans (.heed _ k)

end Deeds

namespace Happens

lemma of_deeds (h : s.Deeds s') (h' : s'.Happens s'') : s.Happens s'' := by
  cases h' with
  | quietly h' => exact .quietly (h.trans h')
  | replacing h₁ ht h₂ => exact .replacing (h.trans h₁) ht h₂

/-- The clock does not move, whatever happens. -/
lemma now_eq (h : s.Happens s') : s'.now = s.now := by
  cases h with
  | quietly h => exact h.now_eq
  | replacing h _ h' => exact h'.now_eq.trans h.now_eq

lemma trans_deeds (h : s.Happens s') (h' : s'.Deeds s'') : s.Happens s'' := by
  cases h with
  | quietly h => exact .quietly (h.trans h')
  | replacing h₁ ht h₂ => exact .replacing h₁ ht (h₂.trans h')

/-- A thread that is done makes room for its successor, or sleeps as long as it draws. -/
lemma retire (ht : s.threads[pid]? = some t) (length : Nat) :
    s.Happens (s.retire pid (t.ranFor length)) := by
  have hafter : s.Deeds (s.afterRun pid (t.ranFor length) false) :=
    .afterRun (u := t.ranFor length) ht rfl rfl rfl (Nat.sub_le _ _) false
  have hself := threads_putThread_self s pid (t.ranFor length)
  rcases s.retire_cases pid (t.ranFor length) with heq | heq
  · rw [heq]
    exact .replacing hafter hself (.refl _)
  · rw [heq]
    have hdraw := Deeds.of_deed (.draw (s.afterRun pid (t.ranFor length) false)
      ((t.ranFor length).spec.sleep.draw s.rng).2)
    have hwrite := Deeds.write
      (s := { s.afterRun pid (t.ranFor length) false with
        rng := ((t.ranFor length).spec.sleep.draw s.rng).2 })
      (u := { t.ranFor length with phase := .sleeping }) hself rfl rfl rfl (Nat.le_refl _)
    refine .quietly (((hafter.trans hdraw).trans hwrite).trans (.of_deed (.plan _ ?_ _)))
    exact .sleep (t := { t.ranFor length with phase := .sleeping })
      (threads_putThread_self _ pid _) s.rng

lemma endRun (s : Simulation ρ) (cpu : Nat) (r : Run) : s.Happens (s.endRun cpu r) := by
  have hvacate : s.Deeds (s.vacate cpu) := .of_deed (.core s cpu _)
  rcases s.endRun_cases cpu r with ⟨-, heq⟩ | ⟨t, ht, ⟨-, heq⟩ | ⟨-, heq⟩⟩
  · rw [heq]
    exact .quietly (hvacate.trans (.takeUp _ cpu))
  · rw [heq]
    refine .quietly (hvacate.trans (.trans (.trans (.requeue ?_ _) (.takeUp _ cpu)) (.rouse _ _)))
    exact ht
  · rw [heq]
    refine of_deeds hvacate ((retire ?_ _).trans_deeds (.takeUp _ cpu))
    exact ht

lemma stop (s : Simulation ρ) (cpu generation : Nat) : s.Happens (s.stop cpu generation) := by
  rcases s.stop_cases cpu generation with ⟨r, -, heq⟩ | ⟨-, heq⟩
  · rw [heq]
    exact .endRun s cpu r
  · rw [heq]
    exact .quietly (.refl s)

end Happens

lemma happens_happen (s : Simulation ρ) (what : Occurrence) : s.Happens (s.happen what) := by
  cases what with
  | wake pid => exact .quietly (.wake s pid)
  | stop cpu generation => exact .stop s cpu generation
  | tick => exact .quietly (.tick s)

/-- Whatever falls due, all that happens then is made of deeds, and one replacement at most. -/
lemma happens_keep (s : Simulation ρ) (a : Appointment) (rest : Agenda) :
    (s.comeTo a rest).Happens ({ s with agenda := rest }.keep a) := by
  rw [keep_eq]
  refine (happens_happen _ a.what).trans_deeds (.trans (.heedKicks _) ?_)
  exact .of_deed (.count _ _)

end Simulation

end CoreSteer
