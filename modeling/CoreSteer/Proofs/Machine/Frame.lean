import CoreSteer.Classification
import CoreSteer.Strategy
import Mathlib.Tactic.Lemma
/-!
# What deciding about a task leaves alone

Classifying a task changes nothing on the machine but certain counters and the reports.  Placing it
may also take one idle core, and use up claims that are lost.  The relations `Machine.Noted` and
`Machine.Searched` say so by giving the machine that results; all else is read off that.
-/
namespace CoreSteer

/-- Some of the counters. -/
abbrev CounterSet := Counter → Bool

namespace CounterSet

/-- The counters in which classifying a task may count. -/
def classification : CounterSet
  | .protonTasks | .gpuFeederTasks | .hintDetects | .parentChainDetects | .cgroupClassifications
  | .cgroupGaming | .vmVcpuTasks | .gamingVmVcpus | .devVmVcpus | .containerTasks
  | .aiContainerTasks => true
  | _ => false

/-- The counters in which placing a task may count. -/
def placement : CounterSet
  | .lowLatencyMigrations | .domainLocal | .domainCross | .smtIdlePicks | .prefcorePlacements
  | .compactionOverflows | .pcorePlacements | .ecoreOffloads | .freqDomainPlacements => true
  | _ => false

/-- The counters that say for what a task was placed where it is. -/
def destination : CounterSet
  | .freqDomainPlacements | .compactionOverflows | .domainLocal | .domainCross => true
  | _ => false

lemma placement_of_destination {k : Counter} (h : destination k = true) :
    placement k = true := by
  cases k <;> first | rfl | cases h

end CounterSet

/-! ## Counters -/

/-- Two states of the counters agree but for those of a set. -/
def Counters.SameBut (p : CounterSet) (c d : Counters) : Prop :=
  ∀ k, p k = false → d.get k = c.get k

namespace Counters.SameBut

variable {p : CounterSet} {c d e : Counters}

lemma refl (p : CounterSet) (c : Counters) : SameBut p c c := fun _ _ => rfl

lemma trans (h : SameBut p c d) (h' : SameBut p d e) : SameBut p c e :=
  fun k hk => (h' k hk).trans (h k hk)

lemma mono {q : CounterSet} (h : SameBut p c d) (hpq : ∀ k, p k = true → q k = true) :
    SameBut q c d := by
  intro k hk
  refine h k ?_
  cases hp : p k with
  | false => rfl
  | true => exact absurd (hpq k hp) (by simp [hk])

lemma add (h : SameBut p c d) {k : Counter} (hk : p k = true) (n : Nat) :
    SameBut p c (d.add k n) := by
  intro j hj
  have hne : j ≠ k := by
    rintro rfl
    simp [hk] at hj
  rw [Counters.get_add_of_ne d n hne]
  exact h j hj

lemma bump (h : SameBut p c d) {k : Counter} (hk : p k = true) : SameBut p c (d.bump k) :=
  h.add hk 1

lemma bumpIf (h : SameBut p c d) {k : Counter} (hk : p k = true) (b : Bool) :
    SameBut p c (d.bumpIf b k) := by
  cases b with
  | false => exact h
  | true => exact h.bump hk

/-- Counting the same on both sides keeps what agrees. -/
lemma bumpIf_both (h : SameBut p c d) (b : Bool) (k : Counter) :
    SameBut p (c.bumpIf b k) (d.bumpIf b k) := by
  cases b with
  | false => exact h
  | true =>
    intro j hj
    show (d.bump k).get j = (c.bump k).get j
    by_cases hne : j = k
    · subst hne
      rw [Counters.get_bump_self, Counters.get_bump_self, h j hj]
    · rw [Counters.get_bump_of_ne d hne, Counters.get_bump_of_ne c hne, h j hj]

/-! ### The counters of classification -/

lemma countCgroup (h : SameBut .classification c d) (o : Option WorkloadClass) :
    SameBut .classification c (d.countCgroup o) := by
  cases o with
  | none => exact h
  | some k => exact (h.bump rfl).bumpIf rfl _

lemma countContainer (h : SameBut .classification c d) (o : Option WorkloadClass) :
    SameBut .classification c (d.countContainer o) := by
  cases o with
  | none => exact h
  | some k => exact (h.bump rfl).bumpIf rfl _

lemma countVm (h : SameBut .classification c d) (o : Option WorkloadClass) :
    SameBut .classification c (d.countVm o) := by
  unfold Counters.countVm
  split
  · exact h
  · exact (h.bump rfl).bump rfl
  · exact (h.bump rfl).bump rfl
  · exact h.bump rfl

lemma fallbackClass (h : SameBut .classification c d) (hs : Hints) (task : Task) :
    SameBut .classification c (CoreSteer.fallbackClass hs task d).2 := by
  unfold CoreSteer.fallbackClass
  split
  · exact h
  · dsimp only
    split
    · exact h.countContainer _
    · exact (h.countContainer _).countCgroup _

end Counters.SameBut

lemma sameBut_cascade (h : Hints) (host : Host) (task : Task) (c : Counters) :
    c.SameBut .classification (cascade h host task c).2 := by
  have h₀ := (Counters.SameBut.refl .classification c).bumpIf (k := .gpuFeederTasks) rfl
    task.name.isGpuFeeder
  unfold cascade
  dsimp only
  split
  · exact h₀
  · split
    · exact h₀.bump rfl
    · have h₁ := h₀.countCgroup (h.cgroupOf? task)
      split
      · exact h₁
      · split
        · exact h₁.bump rfl
        · have h₂ := h₁.countVm h.vmVcpus[task.pid]?
          split
          · exact h₂
          · exact h₂.fallbackClass h task

namespace Machine

/-! ## Counting and reporting -/

/-- The second machine is the first one after something was counted, in counters of a set, and
reported. -/
def Noted (p : CounterSet) (m n : Machine) : Prop :=
  ∃ counters events, m.counters.SameBut p counters ∧
    n = { m with counters := counters, events := events }

namespace Noted

variable {p : CounterSet} {l m n : Machine}

lemma refl (p : CounterSet) (m : Machine) : Noted p m m :=
  ⟨m.counters, m.events, .refl p _, rfl⟩

lemma trans (h : Noted p l m) (h' : Noted p m n) : Noted p l n := by
  obtain ⟨c, ev, hc, rfl⟩ := h
  obtain ⟨d, ev', hd, rfl⟩ := h'
  exact ⟨d, ev', hc.trans hd, rfl⟩

lemma bump (h : Noted p l m) {k : Counter} (hk : p k = true) : Noted p l (m.bump k) :=
  h.trans ⟨_, m.events, (Counters.SameBut.refl p _).bump hk, rfl⟩

lemma emit (h : Noted p l m) (e : SchedEvent) : Noted p l (m.emit e) :=
  h.trans ⟨m.counters, _, .refl p _, rfl⟩

end Noted

lemma noted_classifyAnew (m : Machine) (task : Task) :
    m.Noted .classification (m.classifyAnew task).2 :=
  ⟨_, m.events, (sameBut_cascade m.hints m.host task m.counters).bumpIf rfl _, rfl⟩

lemma noted_classify (m : Machine) (task : Task) (s : TaskState) :
    m.Noted .classification (m.classify task s).2.2 := by
  unfold classify
  split
  · exact .refl _ m
  · have h := m.noted_classifyAnew task
    dsimp only
    split
    · exact h.emit _
    · exact h

end Machine

/-! ## Searching -/

/-- The second platform is the first one after a search for a core among `allowed`: a core that
was found was idle, and is not any more; claims may have been lost on the way. -/
def Host.Searched (h : Host) (allowed : CpuMask) (found : Option Nat) (h' : Host) : Prop :=
  ∃ lost,
    match found with
    | none => h' = { h with lost := lost }
    | some cpu => cpu ∈ h.idle ∧ cpu ∈ allowed ∧ h' = { h with idle := h.idle.clear cpu, lost := lost }

namespace Host.Searched

variable {h h' : Host} {allowed : CpuMask} {found : Option Nat}

/-- Nothing but idle cores and lost claims changes. -/
lemma exists_eq (hs : h.Searched allowed found h') :
    ∃ idle lost, h' = { h with idle := idle, lost := lost } := by
  obtain ⟨lost, hs⟩ := hs
  cases found with
  | none => exact ⟨h.idle, lost, hs⟩
  | some cpu => exact ⟨_, lost, hs.2.2⟩

lemma now_eq (hs : h.Searched allowed found h') : h'.now = h.now := by
  obtain ⟨_, _, rfl⟩ := hs.exists_eq
  rfl

lemma kicks_eq (hs : h.Searched allowed found h') : h'.kicks = h.kicks := by
  obtain ⟨_, _, rfl⟩ := hs.exists_eq
  rfl

end Host.Searched

namespace Machine

/-- The second machine is the first one after a search for a core among `allowed`. -/
def Searched (m : Machine) (allowed : CpuMask) (found : Option Nat) (n : Machine) : Prop :=
  ∃ host, m.host.Searched allowed found host ∧ Noted .placement { m with host := host } n

namespace Searched

variable {allowed : CpuMask} {found : Option Nat} {l m n : Machine}

lemma refl (m : Machine) (allowed : CpuMask) : m.Searched allowed none m :=
  ⟨m.host, ⟨m.host.lost, rfl⟩, .refl _ m⟩

/-- A search that found nothing may be followed by another one. -/
lemma trans (h : Searched l allowed none m) (h' : Searched m allowed found n) :
    Searched l allowed found n := by
  obtain ⟨_, ⟨lost, rfl⟩, c, ev, hc, rfl⟩ := h
  obtain ⟨_, ⟨lost', h'⟩, d, ev', hd, rfl⟩ := h'
  cases found with
  | none =>
    obtain rfl := h'
    exact ⟨_, ⟨lost', rfl⟩, d, ev', hc.trans hd, rfl⟩
  | some cpu =>
    obtain ⟨hidle, hallowed, rfl⟩ := h'
    exact ⟨_, ⟨lost', hidle, hallowed, rfl⟩, d, ev', hc.trans hd, rfl⟩

lemma noted (h : Searched l allowed found m) (h' : Noted .placement m n) :
    Searched l allowed found n := by
  obtain ⟨host, hh, hn⟩ := h
  exact ⟨host, hh, hn.trans h'⟩

end Searched

end Machine

lemma Host.searched_claim {h : Host} {allowed : CpuMask} {cpu : Nat} (hc : cpu ∈ allowed) :
    h.Searched allowed (if (h.claim cpu).1 then some cpu else none) (h.claim cpu).2 := by
  unfold claim
  split
  · next n hn => exact ⟨h.lost.insert cpu n, rfl⟩
  · unfold take
    split
    · next hi => exact ⟨h.lost, hi, hc, rfl⟩
    · exact ⟨h.lost, rfl⟩

namespace Machine

lemma noted_countClaim (m : Machine) (set : CoreSet) (rank : Nat) (whole : Bool) :
    m.Noted .placement (m.countClaim set rank whole) := by
  have h₀ : m.Noted .placement (if whole then m.bump .smtIdlePicks else m) := by
    split
    · exact (Noted.refl _ m).bump rfl
    · exact .refl _ m
  unfold countClaim
  cases set with
  | domain d =>
    dsimp only
    split
    · exact h₀.bump rfl
    · exact h₀
  | performance => exact h₀.bump rfl
  | efficiency => exact h₀.bump rfl

end Machine

/-- The best candidate is one of the candidates. -/
lemma Candidate.best?_mem {cs : List Candidate} {c : Candidate} (h : best? cs = some c) :
    c ∈ cs := by
  cases cs with
  | nil => cases h
  | cons b cs =>
    simp only [best?, Option.some.injEq] at h
    subst h
    induction cs generalizing b with
    | nil => exact List.mem_cons_self
    | cons a cs ih =>
      rw [List.foldl_cons]
      have hb : better b a = b ∨ better b a = a := by
        unfold better
        split
        · exact .inr rfl
        · exact .inl rfl
      rcases hb with hb | hb <;> rw [hb]
      · rcases List.mem_cons.1 (ih b) with h | h
        · rw [h]
          exact List.mem_cons_self
        · exact List.mem_cons_of_mem _ (List.mem_cons_of_mem _ h)
      · exact List.mem_cons_of_mem _ (ih a)

namespace Machine

/-- The best core of a pool is in the pool. -/
lemma mem_of_bestOf? {m : Machine} {set : CoreSet} {pool : CpuMask} {c : Candidate}
    (h : m.bestOf? set pool = some c) : c.cpu ∈ pool := by
  obtain ⟨cpu, hcpu, rfl⟩ := List.mem_map.1 (Candidate.best?_mem h)
  exact CpuMask.mem_toList.1 hcpu

lemma searched_look (m : Machine) (set : CoreSet) {pool allowed : CpuMask} (whole : Bool)
    (hp : ∀ cpu ∈ pool, cpu ∈ allowed) :
    m.Searched allowed (m.look set pool whole).1 (m.look set pool whole).2 := by
  unfold look
  split
  · exact .refl m allowed
  · next c hc =>
    have hclaim := Host.searched_claim (h := m.host) (hp _ (mem_of_bestOf? hc))
    dsimp only
    split
    · next hw =>
      rw [if_pos hw] at hclaim
      exact ⟨_, hclaim, noted_countClaim _ set c.rank whole⟩
    · next hw =>
      rw [if_neg hw] at hclaim
      exact ⟨_, hclaim, .refl _ _⟩

lemma searched_pickIdle (m : Machine) (task : Task) (set : CoreSet) (whole : Bool) :
    m.Searched task.allowed (m.pickIdle task set whole).1 (m.pickIdle task set whole).2 := by
  have hpool : ∀ cores free : CpuMask, ∀ cpu ∈ cores ∩ task.allowed ∩ free,
      cpu ∈ task.allowed := fun cores free cpu h =>
    (CpuMask.mem_inter.1 (CpuMask.mem_inter.1 h).1).2
  unfold pickIdle
  split
  · exact .refl m _
  · next cores hcores =>
    dsimp only
    split
    · have h₁ := m.searched_look set true (hpool cores m.host.idleWhole)
      split
      · next cpu m' hl =>
        rw [hl] at h₁
        exact h₁
      · next m' hl =>
        rw [hl] at h₁
        exact h₁.trans (m'.searched_look set false (hpool cores m'.host.idle))
    · exact m.searched_look set false (hpool cores m.host.idle)

end Machine

/-! ## Placing -/

/-- The stage searches a domain, and counts in a counter that says what for. -/
def Stage.Counted (g : Stage) : Prop :=
  ∃ d whole k, CounterSet.destination k = true ∧ g = ⟨.domain d, whole, .counter k⟩

/-- A placement so credited counts for no counter but those of placements. -/
def Credit.Proper : Credit → Prop
  | .counter k => CounterSet.placement k = true
  | _ => True

namespace Machine

lemma noted_creditPlacement (m : Machine) (task : Task) (s : TaskState) (cpu : Nat)
    {credit : Credit} (h : credit.Proper) :
    m.Noted .placement (m.creditPlacement task s cpu credit) := by
  cases credit with
  | quiet => exact .refl _ m
  | counter k => exact (Noted.refl _ m).bump h
  | migration source => exact ((Noted.refl _ m).bump rfl).emit _

lemma searched_runStages (m : Machine) (task : Task) (s : TaskState) {stages : List Stage}
    (h : ∀ g ∈ stages, g.credit.Proper) :
    m.Searched task.allowed (m.runStages task s stages).1 (m.runStages task s stages).2 := by
  induction stages generalizing m with
  | nil => exact .refl m _
  | cons g stages ih =>
    have hpick := m.searched_pickIdle task g.set g.whole
    unfold runStages
    split
    · next cpu m' hp =>
      rw [hp] at hpick
      exact hpick.noted (noted_creditPlacement m' task s cpu (h g List.mem_cons_self))
    · next m' hp =>
      rw [hp] at hpick
      exact hpick.trans (ih m' fun g hg => h g (List.mem_cons_of_mem _ hg))

lemma proper_of_mem_hybridStages {m : Machine} {s : TaskState} {g : Stage}
    (h : g ∈ m.hybridStages s) : g.credit.Proper := by
  rcases List.mem_append.1 h with h | h
  · split at h
    · rw [List.mem_singleton.1 h]
      trivial
    · cases h
  · split at h
    · rw [List.mem_singleton.1 h]
      trivial
    · cases h

/-- On a machine with cache domains all stages are counted but that of the low-latency domain for
tasks that want it, which comes first. -/
lemma exists_counted_cacheStages (m : Machine) (s : TaskState) (d : Nat) :
    ∃ rest, (∀ g ∈ rest, g.Counted) ∧
      m.cacheStages s d =
        (if s.flags.wantsLowLatency && !m.tunables.load.workMode then
          [⟨.domain m.topology.lowLatencyDomain, true, m.migrationCredit d⟩] else []) ++ rest := by
  let there (whole : Bool) (k : Counter) (d : Nat) : Stage := ⟨.domain d, whole, .counter k⟩
  let rest : List Stage :=
    (if m.tunables.load.workMode then
      m.boostDomain?.toList.map (there true .freqDomainPlacements) else []) ++
    (if !s.flags.wantsLowLatency && m.lowLatencyBusy && d == m.topology.lowLatencyDomain then
      (m.otherDomains m.topology.lowLatencyDomain).map (there false .compactionOverflows)
      else []) ++
    (if !s.flags.wantsLowLatency && s.workload == .batch then
      m.boostDomain?.toList.map (there false .freqDomainPlacements) else []) ++
    [there s.flags.wantsLowLatency .domainLocal d] ++
    (m.otherDomains d).map (there false .domainCross)
  refine ⟨rest, ?_, ?_⟩
  · intro g hg
    simp only [rest, List.mem_append, List.mem_ite_nil_right, List.mem_map, List.mem_singleton] at hg
    rcases hg with (((⟨-, d', -, rfl⟩ | ⟨-, d', -, rfl⟩) | ⟨-, d', -, rfl⟩) | rfl) | ⟨d', -, rfl⟩ <;>
      exact ⟨_, _, _, rfl, rfl⟩
  · -- the stages of work mode come before that of the low-latency domain, but never both are there
    cases hwork : m.tunables.load.workMode <;> simp [cacheStages, rest, there, hwork]

lemma credit_of_mem_cacheStages {m : Machine} {s : TaskState} {d : Nat} {g : Stage}
    (h : g ∈ m.cacheStages s d) : g.credit = m.migrationCredit d ∨ g.Counted := by
  obtain ⟨rest, hrest, hstages⟩ := m.exists_counted_cacheStages s d
  rw [hstages, List.mem_append, List.mem_ite_nil_right, List.mem_singleton] at h
  rcases h with ⟨-, rfl⟩ | h
  · exact .inl rfl
  · exact .inr (hrest g h)

lemma proper_of_mem_cacheStages {m : Machine} {s : TaskState} {d : Nat} {g : Stage}
    (h : g ∈ m.cacheStages s d) : g.credit.Proper := by
  rcases credit_of_mem_cacheStages h with hg | ⟨_, _, k, hk, rfl⟩
  · rw [hg, migrationCredit]
    split <;> trivial
  · exact CounterSet.placement_of_destination hk

lemma proper_of_mem_stages {m : Machine} {strategy : Strategy} {s : TaskState} {prev : Nat}
    {g : Stage} (h : g ∈ m.stages strategy s prev) : g.credit.Proper := by
  cases strategy with
  | hybrid => exact proper_of_mem_hybridStages h
  | cacheDomain =>
    simp only [stages] at h
    split at h
    · exact proper_of_mem_cacheStages h
    · cases h

lemma searched_place (m : Machine) (strategy : Strategy) (task : Task) (s : TaskState)
    (prev : Nat) :
    m.Searched task.allowed (m.place strategy task s prev).1 (m.place strategy task s prev).2 :=
  m.searched_runStages task s fun _ hg => proper_of_mem_stages hg

end Machine

end CoreSteer
