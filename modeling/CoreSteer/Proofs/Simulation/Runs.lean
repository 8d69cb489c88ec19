import CoreSteer.Proofs.Simulation.Moves
import CoreSteer.Proofs.Simulation.Replacements
/-!
# No thread is lost or doubled in a run

A simulation starts orderly, and stays so whatever falls due and however its settings and hints are
changed between runs, until the counter that gives ids to new threads comes round: from then on it
may give one that is in use.  `Simulation.AllInPlace` says what an orderly state means for whoever
looks at it from outside.
-/
namespace CoreSteer.Simulation

variable {ρ : Type}

/-! ## What is seen from outside -/

/-- A core runs a thread. -/
def Runs (s : Simulation ρ) (cpu pid : Nat) : Prop :=
  ∃ (c : SimCore) (r : Run), s.cores[cpu]? = some c ∧ c.run = some r ∧ r.pid = pid

namespace Orderly

variable {s : Simulation ρ} {pid : Nat} {t : Thread}

end Orderly

/-! ## The start -/

/-- Nothing is in a simulation without threads, on an engine whose queues are empty. -/
lemma orderly_empty {e : Engine} (hq : e.queues.entries = []) (hp : e.host.placements = #[])
    (hi : ∀ cpu ∈ e.host.idle, cpu < e.topology.nrCpus) (rng : ρ) (now : Nat)
    (shelf : Option Shelf) :
    Orderly none none ({
      engine := e, rng := rng, now := now, cores := Array.replicate e.topology.nrCpus {}
      shelf := shelf } : Simulation ρ) := by
  have hcore : ∀ (cpu : Nat) (c : SimCore),
      (Array.replicate e.topology.nrCpus ({} : SimCore))[cpu]? = some c → c = {} := by
    intro cpu c hc
    rw [Array.getElem?_replicate] at hc
    split at hc
    · exact (Option.some.inj hc).symm
    · cases hc
  have hnone : ∀ p : Nat, (∅ : Std.ExtTreeMap Nat Thread)[p]? = none := fun p => by simp
  have hin : ∀ phase p, isIn ({
      engine := e, rng := rng, now := now, cores := Array.replicate e.topology.nrCpus {}
      shelf := shelf } : Simulation ρ) none phase p = false := by
    intro phase p
    simp [isIn]
  refine ⟨⟨?_, ?_, hp⟩, ?_, ?_, ?_, ?_, ?_, ?_⟩
  · intro cpu c hc
    rw [hcore cpu c hc]
  · intro cpu hcpu
    refine isFree_iff.2 ⟨{}, ?_, rfl⟩
    exact Array.getElem?_replicate.trans (if_pos (hi cpu hcpu))
  · intro p
    rw [hin, pending, Agenda.toList, Heap.toList_empty]
    rfl
  · intro p
    rw [hin, hq]
    rfl
  · intro cpu c r hc hr
    rw [hcore cpu c hc] at hr
    cases hr
  · intro p t ht
    rw [hnone p] at ht
    cases ht
  · intro cpu c r hc hr
    rw [hcore cpu c hc] at hr
    cases hr
  · intro p t ht
    rw [hnone p] at ht
    cases ht

/-- Telling the platform of processes neither makes a core idle nor places anybody. -/
lemma foldl_addProcess (processes : List (Nat × Nat × String)) (host : Host) :
    (processes.foldl (fun h p => h.addProcess p.1 p.2.1 p.2.2) host).idle = host.idle ∧
      (processes.foldl (fun h p => h.addProcess p.1 p.2.1 p.2.2) host).placements =
        host.placements :=
  List.foldlRecOn (motive := fun h : Host =>
    h.idle = host.idle ∧ h.placements = host.placements) _ _ ⟨rfl, rfl⟩ fun _ hh _ _ => hh

variable [Random.DrawSource ρ]

/-- Threads come into being one after the other, each under an id of its own. -/
lemma Orderly.spawnAll {s : Simulation ρ} (h : s.Orderly none none) {specs : List ThreadSpec}
    (hn : (specs.map (·.pid)).Nodup) (hnew : ∀ spec ∈ specs, s.threads[spec.pid]? = none) :
    (specs.foldl Simulation.spawn s).Orderly none none := by
  induction specs generalizing s with
  | nil => exact h
  | cons spec specs ih =>
    obtain ⟨hspec, hn⟩ := List.nodup_cons.1 hn
    refine ih (h.spawn (hnew spec List.mem_cons_self)) hn fun x hx => ?_
    have hne : x.pid ≠ spec.pid := fun he => hspec (List.mem_map.2 ⟨x, hx, he⟩)
    exact (threads_putThread _ spec.pid x.pid _).trans
      ((if_neg hne).trans (hnew x (List.mem_cons_of_mem _ hx)))

/-- A simulation of threads with ids of their own starts orderly. -/
lemma orderly_start {t : Topology} {e : Engine} (ht : e.topology = t)
    (hhost : e.host = .ofTopology t) (hq : e.queues.entries = []) {sc : Scenario}
    (hn : (sc.threads.map (·.pid)).Nodup) (rng : ρ) (shelf : Option Shelf) :
    { start e sc rng with shelf := shelf }.Orderly none none := by
  obtain ⟨hidle, hplaced⟩ := foldl_addProcess sc.processes e.host
  have hempty := orderly_empty (e := e.onMachine fun m => { m with
      host := sc.processes.foldl (fun h p => h.addProcess p.1 p.2.1 p.2.2) e.host
      hints := withHintsOf m.hints sc }) hq
    (by
      refine hplaced.trans ?_
      rw [hhost]
      rfl)
    (fun cpu hcpu => by
      have hmem : cpu ∈
          (sc.processes.foldl (fun h p => h.addProcess p.1 p.2.1 p.2.2) e.host).idle := hcpu
      rw [hidle, hhost] at hmem
      show cpu < e.topology.nrCpus
      rw [ht]
      exact (CpuMask.mem_firstN.1 hmem).2) rng
    (sc.processes.foldl (fun h p => h.addProcess p.1 p.2.1 p.2.2) e.host).now none
  have hspawned := hempty.spawnAll hn fun spec _ => by simp
  have hstart : (start e sc rng).Orderly none none := hspawned.schedule _ (by simp)
  exact { hstart with }

/-! ## Runs -/

/-- As long as the counter does not come across the scenario, all states that are visited from an
orderly one are orderly. -/
lemma Visits.orderly {s₀ s : Simulation ρ} {sc : Scenario} {last n : Nat}
    (hv : Visits s₀ last n s) (h₀ : s₀.Orderly none none) (hacc : s₀.Accounted sc 0)
    (hsc : sc.Spares (n + 1)) : s.Orderly none none := by
  induction hv with
  | start => exact h₀
  | @event n limit s s' hv _ hs ih =>
    have hbefore := hsc.mono (Nat.succ_le_succ (Nat.le_add_right n _))
    exact (ih hbefore).step ((hv.accounted hacc).nextPid_not_mem hbefore) hs
  | rest _ _ _ ih => exact { ih hsc with }
  | edit _ _ _ ih => exact { ih hsc with }

end CoreSteer.Simulation
