import CoreSteer.Proofs.Simulation.Deeds
import CoreSteer.Proofs.Simulation.Visits
/-!
# Times that fit the clock

A time that comes after a length of time is kept in a 64-bit word (`later`), so a sum that is too
large comes round, and what was put off for very long is due at once, before the present.  As long as
the time to come is longer than anybody runs or sleeps at a stretch, no sum comes round (`Fits`), and
what is put on the agenda is due now or later.  Then the clock never goes back (`Punctual.step`).
-/
namespace CoreSteer

/-- The longest time that may be drawn. -/
def Span.longest (s : Span) : Nat := max s.hi s.lo

/-- The longest time for which a thread may run or sleep at a stretch. -/
def ThreadSpec.longest (spec : ThreadSpec) : Nat := max spec.run.longest spec.sleep.longest

/-- The longest time for which anything in a scenario may be put off: somebody runs or sleeps, or it
is from one tick to the next. -/
def Scenario.longest (sc : Scenario) : Nat :=
  (sc.threads.map (·.longest)).foldr max Simulation.tickPeriod

lemma Scenario.tickPeriod_le_longest (sc : Scenario) : Simulation.tickPeriod ≤ sc.longest := by
  unfold longest
  induction sc.threads with
  | nil => exact Nat.le_refl _
  | cons spec specs ih => exact ih.trans (Nat.le_max_right _ _)

lemma ThreadSpec.longest_le_longest {sc : Scenario} {spec : ThreadSpec} (h : spec ∈ sc.threads) :
    spec.longest ≤ sc.longest := by
  unfold Scenario.longest
  generalize sc.threads = specs at h
  induction specs with
  | nil => cases h
  | cons head specs ih =>
    rcases List.mem_cons.1 h with rfl | h
    · exact Nat.le_max_left _ _
    · exact (ih h).trans (Nat.le_max_right _ _)

lemma Span.draw_le {ρ : Type} [Random.DrawSource ρ] [Random.LawfulDrawSource ρ] (s : Span)
    (rng : ρ) : (s.draw rng).1 ≤ s.longest :=
  Random.LawfulDrawSource.draw64_le rng (Nat.le_max_right _ _)

namespace Simulation

variable {ρ : Type} {s s' s₀ : Simulation ρ} {longest last limit length n pid cpu : Nat}
  {t u : Thread}

/-- The clock has room for the longest time for which anything may be put off. -/
structure Fits (longest : Nat) (s : Simulation ρ) : Prop where
  /-- The clock has room. -/
  room : s.now + longest < UInt64.size
  /-- Ticks follow each other in that time. -/
  period : tickPeriod ≤ longest
  /-- No thread has more to run, or may come to run or to sleep for longer. -/
  threads : ∀ (pid : Nat) (t : Thread), s.threads[pid]? = some t →
    t.remaining ≤ longest ∧ t.spec.longest ≤ longest

/-- The clock has room, and nothing on the agenda is overdue. -/
structure Punctual (longest : Nat) (s : Simulation ρ) : Prop extends Fits longest s where
  /-- Nothing on the agenda is overdue. -/
  ahead : ∀ x ∈ s.agenda.toList, s.now ≤ x.due

namespace Fits

/-- As long as the clock has room no sum comes round. -/
lemma later_eq (h : s.Fits longest) (hle : length ≤ longest) : s.later length = s.now + length :=
  wrap64_of_lt (lt_of_le_of_lt (Nat.add_le_add_left hle _) h.room)

lemma run_le (h : s.Fits longest) (ht : s.threads[pid]? = some t) :
    t.spec.run.longest ≤ longest := (Nat.le_max_left _ _).trans (h.threads pid t ht).2

lemma sleep_le (h : s.Fits longest) (ht : s.threads[pid]? = some t) :
    t.spec.sleep.longest ≤ longest := (Nat.le_max_right _ _).trans (h.threads pid t ht).2

lemma putThread (h : s.Fits longest) (pid : Nat) (hr : u.remaining ≤ longest)
    (hspec : u.spec.longest ≤ longest) : (s.putThread pid u).Fits longest :=
  { h with
    threads := fun p v hv => by
      rw [threads_putThread] at hv
      split at hv
      · obtain rfl := Option.some.inj hv
        exact ⟨hr, hspec⟩
      · exact h.threads p v hv }

/-- Nobody has more to run where somebody is gone. -/
lemma leave (h : s.Fits longest) (e : Engine) (pid next : Nat) :
    { s with engine := e, threads := s.threads.erase pid, nextPid := next }.Fits longest :=
  { h with
    threads := fun p u hu => by
      have hu := (s.threads_erase pid p).symm.trans hu
      split at hu
      · cases hu
      · exact h.threads p u hu }

variable [Random.DrawSource ρ] [Random.LawfulDrawSource ρ]

/-- What a thread draws to run fits. -/
lemma draw_run_le (h : s.Fits longest) (ht : s.threads[pid]? = some t) (rng : ρ) :
    max (t.spec.run.draw rng).1 1 ≤ longest :=
  Nat.max_le.2 ⟨(t.spec.run.draw_le rng).trans (h.run_le ht), le_trans (by decide) h.period⟩

/-- Nobody waits for longer than the longest time. -/
lemma allots_le (h : s.Fits longest) (ha : s.Allots length) : length ≤ longest := by
  cases ha with
  | period => exact h.period
  | sleep ht rng => exact (Span.draw_le _ rng).trans (h.sleep_le ht)
  | run ht hle => exact hle.trans (h.threads _ _ ht).1

/-- A change keeps the clock where it is, and gives nobody more to run than fits. -/
lemma deed (h : s.Fits longest) (hd : s.Deed s') : s'.Fits longest := by
  cases hd with
  | write ht hgoes =>
    refine h.putThread _ ?_ ?_
    · rcases hgoes.remaining with hle | ⟨rng, heq⟩
      · exact hle.trans (h.threads _ _ ht).1
      · exact heq ▸ h.draw_run_le ht rng
    · exact hgoes.spec ▸ (h.threads _ _ ht).2
  | call | core | plan | urge | draw | shelve | count => exact { h with }

lemma deeds (h : s.Fits longest) (hd : s.Deeds s') : s'.Fits longest :=
  hd.preserves (fun _ _ hdeed hs => hs.deed hdeed) h

omit [Random.LawfulDrawSource ρ] in
/-- A new thread has nothing to run yet. -/
lemma spawn (h : s.Fits longest) {spec : ThreadSpec} (hspec : spec.longest ≤ longest) :
    (s.spawn spec).Fits longest := by
  obtain ⟨t, rfl, -, -, -, hr, heq⟩ := s.spawn_eq spec
  have h₁ := h.putThread t.spec.pid (u := t) (hr ▸ Nat.zero_le _) hspec
  rw [heq]
  exact { h₁ with }

omit [Random.LawfulDrawSource ρ] in
lemma replace (h : s.Fits longest) (ht : s.threads[pid]? = some t) :
    (s.replace pid t).Fits longest := by
  rw [replace_eq]
  exact (h.leave _ pid _).spawn (h.threads pid t ht).2

lemma happens (h : s.Fits longest) (hh : s.Happens s') : s'.Fits longest :=
  hh.preserves (fun _ _ hdeed hs => hs.deed hdeed) (fun _ _ _ ht hs => hs.replace ht) h

end Fits

namespace Punctual

/-- What is put on the agenda is not overdue if it is due now or later. -/
lemma schedule (h : s.Punctual longest) {due : Nat} (hle : s.now ≤ due) (what : Occurrence) :
    (s.schedule due what).Punctual longest :=
  { h with
    ahead := fun x hx => by
      rcases List.mem_cons.1 ((s.agenda.toList_add due what).mem_iff.1 hx) with rfl | hx
      · exact hle
      · exact h.ahead x hx }

/-- What is put off for a length of time that fits is not overdue. -/
lemma putOff (h : s.Punctual longest) (hle : length ≤ longest) (what : Occurrence) :
    (s.schedule (s.later length) what).Punctual longest :=
  h.schedule (h.later_eq hle ▸ Nat.le_add_right _ _) what

variable [Random.DrawSource ρ] [Random.LawfulDrawSource ρ]

lemma deed (h : s.Punctual longest) (hd : s.Deed s') : s'.Punctual longest := by
  have hfits := h.toFits.deed hd
  cases hd with
  | plan ha what => exact h.putOff (h.allots_le ha) what
  | urge what => exact h.schedule (Nat.le_refl _) what
  | write | call | core | draw | shelve | count => exact { hfits with ahead := h.ahead }

lemma spawn (h : s.Punctual longest) {spec : ThreadSpec} (hspec : spec.longest ≤ longest) :
    (s.spawn spec).Punctual longest := by
  obtain ⟨t, rfl, -, -, -, hr, heq⟩ := s.spawn_eq spec
  have h₁ := h.putThread t.spec.pid (u := t) (hr ▸ Nat.zero_le _) hspec
  have h₂ : ({ s.onEngine (·.onHost (·.addProcess t.spec.pid t.spec.parent t.spec.name)) with
      rng := (Random.DrawSource.draw64 0 longestDelay s.rng).2 }.putThread t.spec.pid t).Punctual
        longest := { h₁ with ahead := h.ahead }
  have hdelay : (Random.DrawSource.draw64 0 longestDelay s.rng).1 ≤ longest :=
    (Random.LawfulDrawSource.draw64_le s.rng (Nat.zero_le _)).trans (le_trans (by decide) h.period)
  rw [heq]
  exact h₂.putOff hdelay _

lemma replace (h : s.Punctual longest) (ht : s.threads[pid]? = some t) :
    (s.replace pid t).Punctual longest := by
  have hleft := h.leave ((s.engine.taskExit pid).onHost (·.removeProcess pid)) pid
    (wrap32 (s.nextPid + 1))
  rw [replace_eq]
  exact spawn { hleft with ahead := h.ahead } (h.threads pid t ht).2

lemma happens (h : s.Punctual longest) (hh : s.Happens s') : s'.Punctual longest :=
  hh.preserves (fun _ _ hdeed hs => hs.deed hdeed) (fun _ _ _ ht hs => hs.replace ht) h

/-- The first appointment is kept at its own time.  So the clock does not go back, and nothing comes
to be overdue. -/
lemma step (h : s.Punctual longest) (hroom : limit + longest < UInt64.size)
    (hs : s.step? limit = some s') : s.now ≤ s'.now ∧ s'.now ≤ limit ∧ s'.Punctual longest := by
  obtain ⟨a, rest, ha, rfl⟩ := step?_eq_some_iff.1 hs
  have hdue := Agenda.due_le_of_take? ha
  have hperm := Agenda.toList_of_take? ha
  have hfirst := Agenda.first_of_take? ha
  have hcome : (s.comeTo a rest).Punctual longest :=
    { h with
      room := lt_of_le_of_lt (Nat.add_le_add_right hdue _) hroom
      ahead := fun x hx => hfirst x (hperm.mem_iff.2 (List.mem_cons_of_mem _ hx)) }
  have hhappens := s.happens_keep a rest
  have hnow : ({ s with agenda := rest }.keep a).now = a.due := hhappens.now_eq
  rw [hnow]
  exact ⟨h.ahead a (hperm.mem_iff.2 List.mem_cons_self), hdue, hcome.happens hhappens⟩

omit [Random.LawfulDrawSource ρ] in
/-- When nothing is due any more the clock moves on. -/
lemma rest (h : s.Punctual longest) (hroom : limit + longest < UInt64.size)
    (hs : s.step? limit = none) : (s.moveClock limit).Punctual longest :=
  { h with
    room := show max s.now limit + longest < UInt64.size by
      have hnow := h.room
      omega
    ahead := fun x hx => Nat.max_le.2 ⟨h.ahead x hx,
      Nat.le_of_lt (Agenda.lt_due_of_take?_eq_none (step?_eq_none_iff.1 hs) x hx)⟩ }

/-- A simulation starts punctual, whatever the engine is. -/
lemma start {e : Engine} {sc : Scenario} (hlongest : sc.longest ≤ longest)
    (hroom : e.host.now + longest < UInt64.size) (rng : ρ) :
    (start e sc rng).Punctual longest := by
  have hnow : (sc.processes.foldl (fun h p => h.addProcess p.1 p.2.1 p.2.2) e.host).now =
      e.host.now :=
    List.foldlRecOn (motive := fun h : Host => h.now = e.host.now) _ _ rfl fun _ hh _ _ => hh
  have hperiod := sc.tickPeriod_le_longest.trans hlongest
  have hempty : Punctual longest ({
      engine := e.onMachine fun m => { m with
        host := sc.processes.foldl (fun h p => h.addProcess p.1 p.2.1 p.2.2) e.host
        hints := withHintsOf m.hints sc }
      rng := rng
      now := (sc.processes.foldl (fun h p => h.addProcess p.1 p.2.1 p.2.2) e.host).now
      cores := Array.replicate e.topology.nrCpus {} } : Simulation ρ) :=
    { room := by rw [hnow]; exact hroom
      period := hperiod
      threads := fun p t ht => by simp at ht
      ahead := fun x hx => absurd hx List.not_mem_nil }
  have hspawned := List.foldlRecOn (motive := fun s : Simulation ρ => s.Punctual longest)
    sc.threads Simulation.spawn hempty
    fun _ hs spec hspec => hs.spawn ((ThreadSpec.longest_le_longest hspec).trans hlongest)
  exact hspawned.putOff hperiod .tick

end Punctual

end Simulation

end CoreSteer
