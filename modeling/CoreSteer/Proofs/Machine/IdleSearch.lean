import CoreSteer.Proofs.Machine.Frame
import CoreSteer.Proofs.Topology.Faultless
import Mathlib.Data.Prod.Lex
/-!
# The search for an idle core finds the best one

A core is `Machine.Free` for a search if it is of the set, the task may run on it, and it is idle;
it is `Host.Whole` if its sibling, if it has one, is idle too.  The candidates of a look are
compared one by one, from the lowest core on, so that the first of the best is found.  Where nobody
else takes cores, the platform grants every claim of an idle core, and a search finds a core if any
is free.
-/
namespace CoreSteer

/-! ## Candidates -/

namespace Candidate

/-- What candidates are compared by: the rank and, if it is equal, whether the core boosts higher.
-/
def merit (c : Candidate) : ℕ ×ₗ Bool := toLex (c.rank, c.turbo)

lemma better_eq (a b : Candidate) : better a b = if a.merit < b.merit then b else a := by
  have hlt : a.merit < b.merit ↔ a.rank < b.rank ∨ b.rank = a.rank ∧ b.turbo = true ∧
      a.turbo = false := by
    rw [merit, merit, Prod.Lex.toLex_lt_toLex, Bool.lt_iff]
    tauto
  simp only [better, hlt]

/-- Going through candidates in the order of their cores ends with the first of the best. -/
lemma foldl_better_le (a : Candidate) {cs : List Candidate}
    (h : (a :: cs).Pairwise fun b c => b.cpu < c.cpu) :
    ∀ c ∈ a :: cs, c.merit ≤ (cs.foldl better a).merit ∧
      (c.merit = (cs.foldl better a).merit → (cs.foldl better a).cpu ≤ c.cpu) := by
  induction cs generalizing a with
  | nil =>
    intro c hc
    rw [List.mem_singleton.1 hc]
    exact ⟨le_rfl, fun _ => le_rfl⟩
  | cons b cs ih =>
    rw [List.foldl_cons, better_eq]
    obtain ⟨hfirst, hrest⟩ := List.pairwise_cons.1 h
    split
    · next hlt =>
      -- the new candidate takes the place of the old one, which is worse than the result
      intro c hc
      rcases List.mem_cons.1 hc with rfl | hc
      · have hb := (ih b hrest b List.mem_cons_self).1
        exact ⟨hlt.le.trans hb, fun heq => absurd heq (hlt.trans_le hb).ne⟩
      · exact ih b hrest c hc
    · next hle =>
      have hskip : (a :: cs).Pairwise fun b c => b.cpu < c.cpu :=
        h.sublist ((List.sublist_cons_self b cs).cons_cons a)
      intro c hc
      rcases List.mem_cons.1 hc with rfl | hc
      · exact ih c hskip c List.mem_cons_self
      · rcases List.mem_cons.1 hc with rfl | hc
        · -- the new candidate is as good as the result only if the old one is, which comes first
          obtain ⟨ha, hfound⟩ := ih a hskip a List.mem_cons_self
          refine ⟨(not_lt.1 hle).trans ha, fun heq => ?_⟩
          have hsame := le_antisymm ha (heq ▸ not_lt.1 hle)
          exact (hfound hsame).trans (hfirst c List.mem_cons_self).le
        · exact ih a hskip c (List.mem_cons_of_mem a hc)

end Candidate

/-! ## Sets of cores -/

namespace CoreSet

/-- Whether a core is of the set. -/
def has : CoreSet → CoreDesc → Bool
  | domain d, core => core.domain == d
  | performance, core => core.performance
  | efficiency, core => !core.performance

/-- The counter of claims of a core of the set. -/
def counter : CoreSet → Counter
  | domain _ => .prefcorePlacements
  | performance => .pcorePlacements
  | efficiency => .ecoreOffloads

/-- Whether a claim of a core of a given rank is counted. -/
def credits : CoreSet → (rank : Nat) → Bool
  | domain _, rank => decide (0 < rank)
  | performance, _ | efficiency, _ => true

end CoreSet

namespace Topology

variable {t : Topology} {set : CoreSet} {cores : CpuMask} {cpu : Nat}

lemma coreSet?_eq_none_iff : t.coreSet? set = none ↔ ∃ d, set = .domain d ∧ t.nrDomains ≤ d := by
  cases set with
  | domain d =>
    rw [coreSet?, domainMask?, ite_eq_right_iff]
    constructor
    · intro h
      exact ⟨d, rfl, Nat.le_of_not_lt fun hlt => by cases h hlt⟩
    · rintro ⟨_, hd, hle⟩ hlt
      obtain rfl := CoreSet.domain.inj hd
      exact absurd hlt hle.not_gt
  | performance => simp [coreSet?]
  | efficiency => simp [coreSet?]

lemma coreSet?_eq_some (h : t.coreSet? set = some cores) : cores = t.cpusWhere set.has := by
  cases set with
  | domain d =>
    rw [coreSet?, domainMask?] at h
    split at h
    · exact (Option.some.inj h).symm
    · cases h
  | performance => exact (Option.some.inj h).symm
  | efficiency => exact (Option.some.inj h).symm

lemma mem_coreSet? (h : t.coreSet? set = some cores) :
    cpu ∈ cores ↔ ∃ core, t.core? cpu = some core ∧ set.has core = true := by
  rw [coreSet?_eq_some h, mem_cpusWhere_iff]

/-- A core of a domain that does not exist does not exist. -/
lemma not_has_of_coreSet?_eq_none (h : t.coreSet? set = none) {core : CoreDesc}
    (hcore : t.core? cpu = some core) : set.has core = false := by
  obtain ⟨d, rfl, hd⟩ := coreSet?_eq_none_iff.1 h
  exact beq_eq_false_iff_ne.2 ((domain_lt hcore).trans_le hd).ne

end Topology

/-! ## Idle cores -/

namespace Host

/-- The sibling of a core. -/
def sibling? (h : Host) (cpu : Nat) : Option Nat := h.siblings.getD cpu none

/-- On a platform for a topology, cores have the siblings that they have there. -/
lemma sibling?_ofTopology (t : Topology) (cpu : Nat) :
    (ofTopology t).sibling? cpu = (t.core? cpu).bind (·.sibling) := by
  rw [sibling?, ofTopology, Array.getD_eq_getD_getElem?, Array.getElem?_map, Topology.core?]
  cases t.cores[cpu]? <;> rfl

/-- A core is idle, and so is its sibling, if it has one. -/
def Whole (h : Host) (cpu : Nat) : Prop := cpu ∈ h.idle ∧ ∀ s, h.sibling? cpu = some s → s ∈ h.idle

lemma mem_idleWhole {h : Host} {cpu : Nat} : cpu ∈ h.idleWhole ↔ h.Whole cpu := by
  rw [idleWhole, CpuMask.mem_ofList, List.mem_filter, CpuMask.mem_toList, Whole, sibling?]
  refine (and_iff_right_of_imp fun hw => CpuMask.lt_of_mem hw.1).trans (and_congr_right fun _ => ?_)
  rcases h.siblings.getD cpu none with _ | s
  · simp
  · simp [CpuMask.mem_def]

/-- No claim is lost to somebody else. -/
def Undisturbed (h : Host) : Prop := ∀ cpu n : Nat, h.lost[cpu]? = some n → n = 0

lemma undisturbed_of_lost_eq_empty {h : Host} (hlost : h.lost = ∅) : h.Undisturbed := by
  intro cpu n hn
  rw [hlost, Std.ExtTreeMap.getElem?_empty] at hn
  cases hn

/-- An idle core is claimed. -/
lemma Undisturbed.claim {h : Host} (hu : h.Undisturbed) {cpu : Nat} (hidle : cpu ∈ h.idle) :
    h.claim cpu = (true, { h with idle := h.idle.clear cpu }) := by
  unfold Host.claim
  split
  · next n hn => exact absurd (hu cpu _ hn) (Nat.succ_ne_zero n)
  · exact if_pos hidle

end Host

namespace Machine

variable {m : Machine} {task : Task} {set : CoreSet} {whole : Bool} {cpu : Nat}

/-- A core of a set is idle, and the task may run on it. -/
def Free (m : Machine) (task : Task) (set : CoreSet) (cpu : Nat) : Prop :=
  (∃ core, m.topology.core? cpu = some core ∧ set.has core = true) ∧ cpu ∈ task.allowed ∧
    cpu ∈ m.host.idle

/-- The first of the best cores with a property. -/
def Best (m : Machine) (set : CoreSet) (p : Nat → Prop) (cpu : Nat) : Prop :=
  p cpu ∧ ∀ c, p c → (m.candidate set c).merit ≤ (m.candidate set cpu).merit ∧
    ((m.candidate set c).merit = (m.candidate set cpu).merit → cpu ≤ c)

lemma Best.congr {p q : Nat → Prop} (h : m.Best set p cpu) (hpq : ∀ c, p c ↔ q c) :
    m.Best set q cpu :=
  ⟨(hpq cpu).1 h.1, fun c hc => h.2 c ((hpq c).2 hc)⟩

/-- The machine after a core was claimed: the core is not idle any more, and the claim is counted.
-/
def claimed (m : Machine) (set : CoreSet) (cpu : Nat) (whole : Bool) : Machine :=
  { m with
    host := { m.host with idle := m.host.idle.clear cpu }
    counters := (m.counters.bumpIf whole .smtIdlePicks).bumpIf
      (set.credits (BoostRanking.rank m.hints.boost cpu)) set.counter }

/-! ## One look -/

lemma best_of_bestOf? {pool : CpuMask} {c : Candidate} (h : m.bestOf? set pool = some c) :
    c = m.candidate set c.cpu ∧ m.Best set (· ∈ pool) c.cpu := by
  have hmem := Candidate.best?_mem h
  obtain ⟨cpu, hcpu, rfl⟩ := List.mem_map.1 hmem
  refine ⟨rfl, CpuMask.mem_toList.1 hcpu, fun d hd => ?_⟩
  -- candidates are in the order of their cores
  have hsorted : (pool.toList.map (m.candidate set)).Pairwise fun b c => b.cpu < c.cpu :=
    List.pairwise_map.2 pool.pairwise_toList
  have hd : m.candidate set d ∈ pool.toList.map (m.candidate set) :=
    List.mem_map_of_mem (CpuMask.mem_toList.2 hd)
  unfold bestOf? at h
  rcases hl : pool.toList.map (m.candidate set) with _ | ⟨b, cs⟩
  · rw [hl] at hd
    cases hd
  · rw [hl] at h hsorted hd
    have hfold := Candidate.foldl_better_le b hsorted _ hd
    rw [Option.some.inj (show some (cs.foldl Candidate.better b) = _ from h)] at hfold
    exact hfold

lemma look_of_forall_notMem {pool : CpuMask} (h : ∀ cpu, cpu ∉ pool) :
    m.look set pool whole = (none, m) := by
  unfold look
  split
  · rfl
  · next c hc => exact absurd (mem_of_bestOf? hc) (h c.cpu)

lemma countClaim_eq (m : Machine) (set : CoreSet) (rank : Nat) (whole : Bool) :
    m.countClaim set rank whole = { m with
      counters :=
        (m.counters.bumpIf whole .smtIdlePicks).bumpIf (set.credits rank) set.counter } := by
  unfold countClaim
  cases whole <;> cases set with
  | domain d => by_cases h : 0 < rank <;> simp [h, CoreSet.credits, Counters.bumpIf] <;> rfl
  | performance => rfl
  | efficiency => rfl

/-- A look at idle cores claims the first of the best of them. -/
lemma exists_look_eq (hu : m.host.Undisturbed) (set : CoreSet) {pool : CpuMask}
    (hpool : ∀ c ∈ pool, c ∈ m.host.idle) (hcpu : cpu ∈ pool) (whole : Bool) :
    ∃ found, m.Best set (· ∈ pool) found ∧
      m.look set pool whole = (some found, m.claimed set found whole) := by
  unfold look
  split
  · next hnone =>
    have hnil : pool.toList.map (m.candidate set) = [] := by
      unfold bestOf? Candidate.best? at hnone
      split at hnone
      · assumption
      · cases hnone
    have hmem := CpuMask.mem_toList.2 hcpu
    rw [List.map_eq_nil_iff.1 hnil] at hmem
    cases hmem
  · next c hc =>
    obtain ⟨hself, hbest⟩ := best_of_bestOf? hc
    refine ⟨c.cpu, hbest, ?_⟩
    rw [hu.claim (hpool _ hbest.1)]
    dsimp only
    rw [if_pos rfl, countClaim_eq, hself]
    rfl

/-! ## The search -/

lemma free_iff {cores : CpuMask} (h : m.topology.coreSet? set = some cores) :
    m.Free task set cpu ↔ cpu ∈ cores ∩ task.allowed ∩ m.host.idle := by
  rw [CpuMask.mem_inter, CpuMask.mem_inter, Topology.mem_coreSet? h, and_assoc]
  rfl

lemma not_free_of_coreSet?_eq_none (h : m.topology.coreSet? set = none) :
    ¬m.Free task set cpu := by
  rintro ⟨⟨core, hcore, hhas⟩, -⟩
  rw [Topology.not_has_of_coreSet?_eq_none h hcore] at hhas
  cases hhas

/-- A search finds nothing, and leaves everything as it is, where no core is free. -/
lemma pickIdle_of_forall_not_free (h : ∀ cpu, ¬m.Free task set cpu) (whole : Bool) :
    m.pickIdle task set whole = (none, m) := by
  unfold pickIdle
  split
  · rfl
  · next cores hcores =>
    have hidle : ∀ cpu, cpu ∉ cores ∩ task.allowed ∩ m.host.idle := fun cpu hcpu =>
      h cpu ((free_iff hcores).2 hcpu)
    have hwhole : ∀ cpu, cpu ∉ cores ∩ task.allowed ∩ m.host.idleWhole := by
      intro cpu hcpu
      obtain ⟨hallowed, hcpu⟩ := CpuMask.mem_inter.1 hcpu
      exact hidle cpu (CpuMask.mem_inter.2 ⟨hallowed, (Host.mem_idleWhole.1 hcpu).1⟩)
    dsimp only
    split
    · rw [look_of_forall_notMem hwhole]
      exact look_of_forall_notMem hidle
    · exact look_of_forall_notMem hidle

/-- A search finds a core where one is free: among the cores whose sibling is idle too, if these are
asked for and there is one, and else among all. -/
lemma exists_pickIdle_eq (hu : m.host.Undisturbed) (hcpu : m.Free task set cpu) (whole : Bool) :
    ∃ found first, (first = true ↔ whole = true ∧ m.prefersWhole = true ∧
        ∃ c, m.Free task set c ∧ m.host.Whole c) ∧
      m.Best set (fun c => m.Free task set c ∧ (first = true → m.host.Whole c)) found ∧
      m.pickIdle task set whole = (some found, m.claimed set found first) := by
  rcases hcores : m.topology.coreSet? set with _ | cores
  · exact absurd hcpu (not_free_of_coreSet?_eq_none hcores)
  have hidle : ∀ c, c ∈ cores ∩ task.allowed ∩ m.host.idle ↔ m.Free task set c := fun c =>
    (free_iff hcores).symm
  have hwhole : ∀ c, c ∈ cores ∩ task.allowed ∩ m.host.idleWhole ↔
      m.Free task set c ∧ m.host.Whole c := by
    intro c
    have hc := hidle c
    rw [CpuMask.mem_inter] at hc
    rw [CpuMask.mem_inter, Host.mem_idleWhole, ← hc, and_assoc]
    exact and_congr_right fun _ => ⟨fun hw => ⟨hw.1, hw⟩, And.right⟩
  obtain ⟨second, hsecond, hlook⟩ := exists_look_eq hu set
    (fun c hc => (CpuMask.mem_inter.1 hc).2) ((hidle cpu).2 hcpu) false
  have hall : m.Best set (fun c => m.Free task set c ∧ (false = true → m.host.Whole c)) second :=
    hsecond.congr fun c => (hidle c).trans (and_iff_left fun h => by cases h).symm
  unfold pickIdle
  rw [hcores]
  dsimp only
  by_cases hasked : (whole && m.prefersWhole) = true
  · obtain ⟨hask, hprefers⟩ := Bool.and_eq_true_iff.1 hasked
    rw [if_pos hasked]
    by_cases hexists : ∃ c, m.Free task set c ∧ m.host.Whole c
    · obtain ⟨c, hc⟩ := hexists
      obtain ⟨found, hfound, hfirst⟩ := exists_look_eq hu set
        (fun c hc => (Host.mem_idleWhole.1 (CpuMask.mem_inter.1 hc).2).1) ((hwhole c).2 hc) true
      rw [hfirst]
      refine ⟨found, true, iff_of_true rfl ⟨hask, hprefers, c, hc⟩, hfound.congr fun c => ?_, rfl⟩
      exact (hwhole c).trans (and_congr_right fun _ => ⟨fun hw _ => hw, fun hw => hw rfl⟩)
    · rw [look_of_forall_notMem fun c hc => hexists ⟨c, (hwhole c).1 hc⟩]
      exact ⟨second, false, iff_of_false Bool.false_ne_true fun h => hexists h.2.2, hall, hlook⟩
  · rw [if_neg hasked]
    refine ⟨second, false, iff_of_false Bool.false_ne_true fun h => hasked ?_, hall, hlook⟩
    exact Bool.and_eq_true_iff.2 ⟨h.1, h.2.1⟩

/-- The search finds the best idle core, if nobody else takes cores.  It finds none exactly if the
domain does not exist or no core of the set is free, and then changes nothing.  Otherwise it looks
at the free cores whose sibling is idle too, if these are asked for and preferred and there is one,
and at all free cores else.  It returns the lowest of those that have the highest rank and, among
performance cores of equal rank, boost higher if any does.  That core is not idle any more, and the
claim is counted. -/
theorem idle_search_finds_best (m : Machine) (task : Task) (set : CoreSet) (whole : Bool)
    (hu : m.host.Undisturbed) :
    ((m.pickIdle task set whole).1 = none ↔
      (∃ d, set = .domain d ∧ m.topology.nrDomains ≤ d) ∨ ∀ cpu, ¬m.Free task set cpu) ∧
    ((m.pickIdle task set whole).1 = none → (m.pickIdle task set whole).2 = m) ∧
    ∀ cpu, (m.pickIdle task set whole).1 = some cpu →
      ∃ first, (first = true ↔ whole = true ∧ m.topology.smtEnabled = true ∧
          m.config.preferIdleSmt = true ∧ ∃ c, m.Free task set c ∧ m.host.Whole c) ∧
        m.Best set (fun c => m.Free task set c ∧ (first = true → m.host.Whole c)) cpu ∧
        (m.pickIdle task set whole).2 = { m with
          host := { m.host with idle := m.host.idle.clear cpu }
          counters := (m.counters.bumpIf first .smtIdlePicks).bumpIf
            (set.credits (BoostRanking.rank m.hints.boost cpu)) set.counter } := by
  by_cases hfree : ∃ cpu, m.Free task set cpu
  · obtain ⟨cpu, hcpu⟩ := hfree
    obtain ⟨found, first, hfirst, hbest, hpick⟩ := exists_pickIdle_eq hu hcpu whole
    rw [prefersWhole, Bool.and_eq_true, and_assoc] at hfirst
    rw [hpick]
    have hsome : some found ≠ none := Option.some_ne_none found
    refine ⟨iff_of_false hsome ?_, fun h => absurd h hsome, ?_⟩
    · rintro (hnone | hnone)
      · exact not_free_of_coreSet?_eq_none (Topology.coreSet?_eq_none_iff.2 hnone) hcpu
      · exact hnone cpu hcpu
    · rintro _ ⟨⟩
      exact ⟨first, hfirst, hbest, rfl⟩
  · have hnone := not_exists.1 hfree
    rw [pickIdle_of_forall_not_free hnone]
    exact ⟨iff_of_true rfl (.inr hnone), fun _ => rfl, fun cpu h => by cases h⟩

end Machine

/-- Two physical cores of one domain with two threads each. -/
def Topology.fourThreads : Topology where
  kind := .cacheDomains
  cores := #[⟨0, 0, 0, some 1, true, true, false⟩, ⟨0, 0, 0, some 0, true, true, false⟩,
    ⟨0, 0, 0, some 3, true, true, false⟩, ⟨0, 0, 0, some 2, true, true, false⟩]
  faultless := by decide +kernel

namespace Machine

/-- A machine on which the core of the highest rank is idle, but not its sibling. -/
def onFourThreads : Machine :=
  .make .fourThreads {} none { boost := #[9, 0, 5, 5] }
    { Host.ofTopology .fourThreads with idle := .ofList [0, 2, 3] }

lemma undisturbed_onFourThreads : onFourThreads.host.Undisturbed :=
  Host.undisturbed_of_lost_eq_empty rfl

theorem idle_search_finds_best_onFourThreads :
    let task : Task := { pid := 1, tgid := 1, name := .ofString "render", allowed := .firstN 4 }
    onFourThreads.host.Undisturbed ∧
      (onFourThreads.pickIdle task (.domain 0) true).1 = some 2 ∧
      (onFourThreads.pickIdle task (.domain 0) true).2.host.idle = .ofList [0, 3] ∧
      (onFourThreads.pickIdle task (.domain 0) true).2.counters.get .smtIdlePicks = 1 ∧
      ∀ c, onFourThreads.Free task (.domain 0) c ∧ onFourThreads.host.Whole c →
        BoostRanking.rank onFourThreads.hints.boost c ≤ 5 := by
  intro task
  obtain ⟨-, -, hsome⟩ :=
    idle_search_finds_best onFourThreads task (.domain 0) true undisturbed_onFourThreads
  have hpick : (onFourThreads.pickIdle task (.domain 0) true).1 = some 2 := by decide +kernel
  obtain ⟨first, hfirst, ⟨-, hbest⟩, hm⟩ := hsome 2 hpick
  obtain rfl : first = true := by
    refine hfirst.2 ⟨rfl, by decide +kernel, rfl, 2, ⟨⟨_, rfl, rfl⟩, ?_, ?_⟩, ?_, ?_⟩
    · decide +kernel
    · decide +kernel
    · decide +kernel
    · rintro s hs
      have hthree : onFourThreads.host.sibling? 2 = some 3 :=
        Host.sibling?_ofTopology .fourThreads 2
      obtain rfl := Option.some.inj (hthree.symm.trans hs)
      decide +kernel
  refine ⟨undisturbed_onFourThreads, hpick, ?_, ?_, fun c hc => ?_⟩
  · rw [hm]
    decide +kernel
  · rw [hm]
    decide +kernel
  · have hle := (hbest c ⟨hc.1, fun _ => hc.2⟩).1
    rw [Candidate.merit, Candidate.merit, Prod.Lex.toLex_le_toLex] at hle
    exact hle.elim le_of_lt fun h => h.1.le

end Machine

end CoreSteer
