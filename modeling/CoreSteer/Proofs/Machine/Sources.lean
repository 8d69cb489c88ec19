import CoreSteer.Proofs.Engine.Observers
/-!
# What the sources say about a task

Five sources may say that a task is gaming, and they are asked in order.  `GamingSource.Detects` tells
of each source on its own when it does so, and what it adds about the compatibility layer and the
graphics card; the classification is that of the first source that says anything (`cascade_cases`).
What the ancestors of a task say is what the nearest one with a gaming name tells, among the first few
on the way up (`FirstGame`), whatever the table of processes is like.

A task about which no source says anything is not gaming.  It does gaming work all the same if the
hint for its container says so, and none for a virtual core says anything else (`Machine.Misled`):
that hint alone is taken over as it is.
-/
namespace CoreSteer

/-! ## The way up -/

/-- Of the first `n` processes on a way up, the one with number `k` is the first with a gaming name. -/
structure FirstGame (way : Nat → Option (Nat × TaskName)) (n k : Nat) (hit : GameHit) : Prop where
  /-- It is one of them. -/
  near : k < n
  /-- This is what its name tells. -/
  game : ∃ p, way k = some p ∧ p.2.gameHit? = some hit
  /-- No name before it on the way belongs to a game. -/
  first : ∀ j < k, ∀ p, way j = some p → p.2.gameHit? = none

namespace FirstGame

variable {way : Nat → Option (Nat × TaskName)} {n m k l : Nat} {hit hit' : GameHit}
  {p : Nat × TaskName}

lemma unique (h : FirstGame way n k hit) (h' : FirstGame way m l hit') : k = l ∧ hit = hit' := by
  obtain ⟨p, hp, hgame⟩ := h.game
  obtain ⟨q, hq, hgame'⟩ := h'.game
  have hkl : k = l := by
    rcases Nat.lt_trichotomy k l with hlt | heq | hlt
    · have hnone := h'.first k hlt p hp
      rw [hgame] at hnone
      cases hnone
    · exact heq
    · have hnone := h.first l hlt q hq
      rw [hgame'] at hnone
      cases hnone
  subst hkl
  obtain rfl : p = q := Option.some.inj (hp.symm.trans hq)
  exact ⟨rfl, Option.some.inj (hgame.symm.trans hgame')⟩

/-- A game at the beginning of the way is the first. -/
lemma zero (hp : way 0 = some p) (hgame : p.2.gameHit? = some hit) :
    FirstGame way (n + 1) 0 hit where
  near := Nat.succ_pos n
  game := ⟨p, hp, hgame⟩
  first j hj := absurd hj (Nat.not_lt_zero j)

/-- If there is none at the beginning, the first one is the first on the rest of the way. -/
lemma succ_iff (hp : way 0 = some p) (hgame : p.2.gameHit? = none) :
    (∃ k, FirstGame way (n + 1) k hit) ↔ ∃ k, FirstGame (fun i => way (i + 1)) n k hit := by
  constructor
  · rintro ⟨_ | k, hnear, ⟨q, hq, hgame'⟩, hfirst⟩
    · obtain rfl : p = q := Option.some.inj (hp.symm.trans hq)
      rw [hgame] at hgame'
      cases hgame'
    · refine ⟨k, Nat.lt_of_succ_lt_succ hnear, ⟨q, hq, hgame'⟩, fun j hj => ?_⟩
      exact hfirst (j + 1) (Nat.succ_lt_succ hj)
  · rintro ⟨k, hnear, hgame', hfirst⟩
    refine ⟨k + 1, Nat.succ_lt_succ hnear, hgame', fun j hj q hq => ?_⟩
    rcases j with _ | j
    · obtain rfl : p = q := Option.some.inj (hp.symm.trans hq)
      exact hgame
    · exact hfirst j (Nat.lt_of_succ_lt_succ hj) q hq

end FirstGame

namespace Host

variable (h : Host) {hit : GameHit}

/-- The process above another one, if it is known; above a process that is its own parent is none. -/
def above? (p : Nat × TaskName) : Option (Nat × TaskName) := (h.parent? p.1).filter (·.1 != p.1)

/-- The process that is `k` steps above another one. -/
def climb? (p : Nat × TaskName) : (k : Nat) → Option (Nat × TaskName)
  | 0 => some p
  | k + 1 => (climb? p k).bind h.above?

/-- The ancestors of a process by number, where its parent has number zero. -/
def ancestor? (pid k : Nat) : Option (Nat × TaskName) := (h.parent? pid).bind (h.climb? · k)

/-- The first step can be told apart from the others. -/
lemma climb?_succ (p : Nat × TaskName) (k : Nat) :
    h.climb? p (k + 1) = (h.above? p).bind (h.climb? · k) := by
  induction k with
  | zero => simp [climb?]
  | succ k ih =>
    rw [climb?, ih, Option.bind_assoc]
    rfl

/-- Looking for a game goes on above a process whose name belongs to none. -/
lemma ancestorHitFrom_succ (n : Nat) (p : Nat × TaskName) :
    ancestorHitFrom h.parent? (n + 1) p =
      p.2.gameHit?.or ((h.above? p).bind (ancestorHitFrom h.parent? n)) := by
  obtain ⟨pid, name⟩ := p
  rw [ancestorHitFrom, above?]
  rcases name.gameHit? with _ | hit
  · rcases h.parent? pid with _ | ⟨next, nextName⟩
    · rfl
    · by_cases hself : next = pid <;> simp [Option.filter, hself]
  · rfl

lemma ancestorHitFrom_eq_some_iff (n : Nat) (p : Nat × TaskName) :
    ancestorHitFrom h.parent? n p = some hit ↔ ∃ k, FirstGame (h.climb? p) n k hit := by
  induction n generalizing p with
  | zero =>
    refine iff_of_false (by simp [ancestorHitFrom]) ?_
    rintro ⟨k, hnear, -⟩
    exact Nat.not_lt_zero k hnear
  | succ n ih =>
    have hstart : h.climb? p 0 = some p := rfl
    rw [ancestorHitFrom_succ]
    rcases hgame : p.2.gameHit? with _ | hit'
    · -- the rest of the way is the way from the process above
      rw [Option.none_or, FirstGame.succ_iff hstart hgame, funext (h.climb?_succ p)]
      rcases h.above? p with _ | q
      · refine iff_of_false (by simp) ?_
        rintro ⟨k, -, ⟨q, hq, -⟩, -⟩
        cases hq
      · exact ih q
    · rw [Option.some_or, Option.some.injEq]
      constructor
      · rintro rfl
        exact ⟨0, .zero hstart hgame⟩
      · rintro ⟨k, hk⟩
        exact ((FirstGame.zero (n := n) hstart hgame).unique hk).2

/-- What the ancestors of a task say is what the nearest one with a gaming name tells. -/
lemma ancestorHit?_eq_some_iff (pid : Nat) :
    h.ancestorHit? pid = some hit ↔ ∃ k, FirstGame (h.ancestor? pid) maxAncestors k hit := by
  unfold ancestorHit? ancestor?
  rcases h.parent? pid with _ | p
  · refine iff_of_false (by simp) ?_
    rintro ⟨k, -, ⟨q, hq, -⟩, -⟩
    cases hq
  · exact h.ancestorHitFrom_eq_some_iff maxAncestors p

end Host

/-! ## The sources, each on its own -/

/-- A source that may say that a task is gaming. -/
inductive GamingSource where
  /-- The name of the task. -/
  | name
  /-- The hint for its process. -/
  | process
  /-- The hint for its control group. -/
  | cgroup
  /-- The names of its ancestors. -/
  | ancestors
  /-- The hint for a virtual core. -/
  | virtualCore
deriving DecidableEq, Repr

namespace GamingSource

/-- Sources are asked by turns. -/
def turn : GamingSource → Nat
  | name => 0
  | process => 1
  | cgroup => 2
  | ancestors => 3
  | virtualCore => 4

lemma turn_inj {a b : GamingSource} (h : a.turn = b.turn) : a = b := by
  cases a <;> cases b <;> first | rfl | cases h

lemma turn_lt (source : GamingSource) : source.turn < 5 := by
  cases source <;> decide

/-- A source says that a task is gaming, with what it finds, and whether the task feeds the graphics
card. -/
inductive Detects (h : Hints) (host : Host) (task : Task) : GamingSource → GameHit → Bool → Prop where
  /-- The name belongs to a game. -/
  | game {hit : GameHit} (hgame : task.name.gameHit? = some hit) :
    Detects h host task name hit task.name.isGpuFeeder
  /-- The name belongs to a thread that feeds the graphics card. -/
  | feeder (hgame : task.name.gameHit? = none) (hfeeder : task.name.isGpuFeeder = true) :
    Detects h host task name .native true
  /-- The process is known to be a game. -/
  | process (hhint : h.processes[task.tgid]? = some .gaming) :
    Detects h host task process .native false
  /-- The control group is known to be that of a game; group zero is none. -/
  | cgroup (hgroup : task.cgroup ≠ 0) (hhint : h.cgroups[task.cgroup]? = some .gaming) :
    Detects h host task cgroup .native false
  /-- The nearest of the ancestors that are asked has a gaming name. -/
  | ancestors {k : Nat} {hit : GameHit}
    (hgame : FirstGame (host.ancestor? task.pid) maxAncestors k hit) :
    Detects h host task ancestors hit false
  /-- The task is known to be a core of a virtual machine that runs a game. -/
  | virtualCore (hhint : h.vmVcpus[task.pid]? = some .vmGaming) :
    Detects h host task virtualCore .native false

/-- A source does not say that a task is gaming. -/
def Silent (h : Hints) (host : Host) (task : Task) (source : GamingSource) : Prop :=
  ∀ hit feeder, ¬Detects h host task source hit feeder

/-- None of the sources says so that are asked before a given turn. -/
def SilentBefore (h : Hints) (host : Host) (task : Task) (n : Nat) : Prop :=
  ∀ source, source.turn < n → Silent h host task source

/-- A source says that a task is gaming, and none before it does. -/
structure DetectsFirst (h : Hints) (host : Host) (task : Task) (source : GamingSource) (hit : GameHit)
    (feeder : Bool) : Prop where
  /-- The source says so. -/
  detects : Detects h host task source hit feeder
  /-- None before it does. -/
  first : SilentBefore h host task source.turn

variable {h : Hints} {host : Host} {task : Task} {source source' : GamingSource} {hit hit' : GameHit}
  {feeder feeder' : Bool} {n : Nat}

/-! ### Asking one after the other -/

lemma silentBefore_zero : SilentBefore h host task 0 :=
  fun source hlt => absurd hlt (Nat.not_lt_zero source.turn)

lemma SilentBefore.succ (hn : SilentBefore h host task n) (hturn : source.turn = n)
    (hsource : Silent h host task source) : SilentBefore h host task (n + 1) := by
  intro earlier hlt
  rcases Nat.lt_succ_iff_lt_or_eq.1 hlt with hlt | heq
  · exact hn earlier hlt
  · rw [turn_inj (heq.trans hturn.symm)]
    exact hsource

/-- After the last turn nobody is left. -/
lemma SilentBefore.all (h₅ : SilentBefore h host task 5) (source : GamingSource) :
    Silent h host task source :=
  h₅ source source.turn_lt

/-! ### What a source says, as it is asked -/

lemma detects_name_iff :
    Detects h host task name hit feeder ↔
      task.name.gameHit?.or (if task.name.isGpuFeeder then some .native else none) = some hit ∧
        feeder = task.name.isGpuFeeder := by
  constructor
  · intro ht
    cases ht with
    | game hgame => simp [hgame]
    | feeder hgame hfeeder => simp [hgame, hfeeder]
  · rintro ⟨hhit, rfl⟩
    rcases hgame : task.name.gameHit? with _ | hit'
    · rcases hfeeder : task.name.isGpuFeeder
      · simp [hgame, hfeeder] at hhit
      · obtain rfl : .native = hit := by simpa [hgame, hfeeder] using hhit
        exact .feeder hgame hfeeder
    · obtain rfl : hit' = hit := by simpa [hgame] using hhit
      exact .game hgame

lemma detects_process_iff :
    Detects h host task process hit feeder ↔
      h.processes[task.tgid]? = some .gaming ∧ hit = .native ∧ feeder = false := by
  constructor
  · rintro ⟨⟩
    exact ⟨‹_›, rfl, rfl⟩
  · rintro ⟨hhint, rfl, rfl⟩
    exact .process hhint

lemma detects_cgroup_iff :
    Detects h host task cgroup hit feeder ↔
      h.cgroupOf? task = some .gaming ∧ hit = .native ∧ feeder = false := by
  unfold Hints.cgroupOf?
  constructor
  · rintro ⟨⟩
    exact ⟨by rwa [if_neg ‹_›], rfl, rfl⟩
  · rintro ⟨hhint, rfl, rfl⟩
    split at hhint
    · cases hhint
    · next hgroup => exact .cgroup hgroup hhint

lemma detects_ancestors_iff :
    Detects h host task ancestors hit feeder ↔
      host.ancestorHit? task.pid = some hit ∧ feeder = false := by
  rw [Host.ancestorHit?_eq_some_iff]
  constructor
  · intro ht
    cases ht with
    | ancestors hgame => exact ⟨⟨_, hgame⟩, rfl⟩
  · rintro ⟨⟨k, hgame⟩, rfl⟩
    exact .ancestors hgame

lemma detects_virtualCore_iff :
    Detects h host task virtualCore hit feeder ↔
      h.vmVcpus[task.pid]? = some .vmGaming ∧ hit = .native ∧ feeder = false := by
  constructor
  · rintro ⟨⟩
    exact ⟨‹_›, rfl, rfl⟩
  · rintro ⟨hhint, rfl, rfl⟩
    exact .virtualCore hhint

lemma silent_name
    (h₀ : task.name.gameHit?.or (if task.name.isGpuFeeder then some .native else none) = none) :
    Silent h host task name := by
  intro hit feeder ht
  have hhit := (detects_name_iff.1 ht).1
  rw [h₀] at hhit
  cases hhit

lemma silent_process (h₀ : h.processes[task.tgid]? ≠ some .gaming) : Silent h host task process :=
  fun _ _ ht => h₀ (detects_process_iff.1 ht).1

lemma silent_cgroup (h₀ : h.cgroupOf? task ≠ some .gaming) : Silent h host task cgroup :=
  fun _ _ ht => h₀ (detects_cgroup_iff.1 ht).1

lemma silent_ancestors (h₀ : host.ancestorHit? task.pid = none) : Silent h host task ancestors := by
  intro hit feeder ht
  have hhit := (detects_ancestors_iff.1 ht).1
  rw [h₀] at hhit
  cases hhit

lemma silent_virtualCore (h₀ : h.vmVcpus[task.pid]? ≠ some .vmGaming) :
    Silent h host task virtualCore :=
  fun _ _ ht => h₀ (detects_virtualCore_iff.1 ht).1

/-- A source says one thing only. -/
lemma Detects.unique (ht : Detects h host task source hit feeder)
    (ht' : Detects h host task source hit' feeder') : hit = hit' ∧ feeder = feeder' := by
  cases source with
  | name =>
    obtain ⟨hhit, rfl⟩ := detects_name_iff.1 ht
    obtain ⟨hhit', rfl⟩ := detects_name_iff.1 ht'
    exact ⟨Option.some.inj (hhit.symm.trans hhit'), rfl⟩
  | ancestors =>
    obtain ⟨hhit, rfl⟩ := detects_ancestors_iff.1 ht
    obtain ⟨hhit', rfl⟩ := detects_ancestors_iff.1 ht'
    exact ⟨Option.some.inj (hhit.symm.trans hhit'), rfl⟩
  | process | cgroup | virtualCore =>
    cases ht
    cases ht'
    exact ⟨rfl, rfl⟩

lemma DetectsFirst.unique (ht : DetectsFirst h host task source hit feeder)
    (ht' : DetectsFirst h host task source' hit' feeder') : hit = hit' ∧ feeder = feeder' := by
  obtain rfl : source = source' := by
    refine turn_inj (Nat.le_antisymm ?_ ?_)
    · exact Nat.le_of_not_lt fun hlt => ht.first source' hlt hit' feeder' ht'.detects
    · exact Nat.le_of_not_lt fun hlt => ht'.first source hlt hit feeder ht.detects
  exact ht.detects.unique ht'.detects

end GamingSource

/-! ## The classification -/

open GamingSource

variable (h : Hints) (host : Host) (task : Task) (c : Counters)

/-- A task is classified by the first source that says that it is gaming.  If there is none, the task
is not gaming, and has the class that the other hints leave. -/
lemma cascade_cases :
    (∃ source hit feeder, DetectsFirst h host task source hit feeder ∧
        (cascade h host task c).1 = .ofHit hit feeder) ∨
      (∀ source, Silent h host task source) ∧
        ∃ d, (cascade h host task c).1 = .other (fallbackClass h task d).1 := by
  unfold cascade
  dsimp only
  split
  · next hit hname =>
    exact .inl ⟨.name, hit, _, ⟨detects_name_iff.2 ⟨hname, rfl⟩, silentBefore_zero⟩, rfl⟩
  · next hname =>
    have h₁ : SilentBefore h host task 1 := silentBefore_zero.succ rfl (silent_name hname)
    split
    · next hprocess => exact .inl ⟨.process, _, _, ⟨.process hprocess, h₁⟩, rfl⟩
    · next hprocess =>
      have h₂ : SilentBefore h host task 2 := h₁.succ rfl (silent_process hprocess)
      split
      · next hcgroup =>
        exact .inl ⟨.cgroup, _, _, ⟨detects_cgroup_iff.2 ⟨hcgroup, rfl, rfl⟩, h₂⟩, rfl⟩
      · next hcgroup =>
        have h₃ : SilentBefore h host task 3 := h₂.succ rfl (silent_cgroup hcgroup)
        split
        · next hit hancestor =>
          exact .inl ⟨.ancestors, hit, _, ⟨detects_ancestors_iff.2 ⟨hancestor, rfl⟩, h₃⟩, rfl⟩
        · next hancestor =>
          have h₄ : SilentBefore h host task 4 := h₃.succ rfl (silent_ancestors hancestor)
          split
          · next hvm => exact .inl ⟨.virtualCore, _, _, ⟨.virtualCore hvm, h₄⟩, rfl⟩
          · next hvm => exact .inr ⟨(h₄.succ rfl (silent_virtualCore hvm)).all, _, rfl⟩

/-- The other hints leave gaming work only where the hint for the container says gaming, and none for
a virtual core says anything else. -/
lemma fallbackClass_eq_gaming_iff :
    (fallbackClass h task c).1 = .gaming ↔
      (∀ k, h.vmVcpus[task.pid]? = some k → k.isSpecific = false) ∧
        h.containers[task.tgid]? = some .gaming := by
  have hspecific : ∀ k : WorkloadClass, k.isSpecific = true → k ≠ .gaming := by
    rintro k hk rfl
    cases hk
  unfold fallbackClass
  dsimp only
  split
  · next k hvm =>
    -- what is specific is not gaming
    obtain ⟨hvm, hk⟩ := Option.filter_eq_some_iff.1 hvm
    refine iff_of_false (hspecific k hk) fun ⟨hplain, _⟩ => ?_
    rw [hplain k hvm] at hk
    cases hk
  · next hvm =>
    have hplain : ∀ k, h.vmVcpus[task.pid]? = some k → k.isSpecific = false := fun k hk =>
      Bool.eq_false_iff.2 (Option.filter_eq_none_iff.1 hvm k hk)
    split
    · next k hcontainer =>
      obtain ⟨hcontainer, -⟩ := Option.filter_eq_some_iff.1 hcontainer
      rw [hcontainer, Option.some.injEq]
      exact ⟨fun hk => ⟨hplain, hk⟩, fun hk => hk.2⟩
    · next hcontainer =>
      refine iff_of_false ?_ fun ⟨_, hgaming⟩ => ?_
      · rcases hcgroup : (h.cgroupOf? task).filter WorkloadClass.isSpecific with _ | k
        · exact fun hbatch => by cases hbatch
        · exact hspecific k (Option.filter_eq_some_iff.1 hcgroup).2
      · exact Option.filter_eq_none_iff.1 hcontainer _ hgaming rfl

namespace Machine

variable (m : Machine) {s : TaskState}

/-- A task that was not classified before gets the same answer with its state as without one, and the
same is counted. -/
lemma classify_of_unclassified (hs : s.flags.classified = false) :
    (m.classify task s).1 = (m.classifyAnew task).1 ∧
      (m.classify task s).2.2.counters = (m.classifyAnew task).2.counters := by
  rw [classify, if_neg (by rw [hs]; exact Bool.false_ne_true)]
  dsimp only
  constructor
  · rfl
  · split <;> rfl

/-- The first source decides.  Whatever is known about tasks and processes, a task is gaming if and
only if some source says so; and then the first that does says whether the task runs in the
compatibility layer and whether it feeds the graphics card.  A task that is not gaming does neither.
A task that has a state but was not classified before gets the same answer as one without a state, and
the same is counted for it. -/
theorem classified_by_first_source :
    ((m.classifyAnew task).1.gaming = true ↔
        ∃ source hit feeder, Detects m.hints m.host task source hit feeder) ∧
      (∀ source hit feeder, DetectsFirst m.hints m.host task source hit feeder →
        (m.classifyAnew task).1.proton = (hit == .translated) ∧
          (m.classifyAnew task).1.gpuFeeder = feeder) ∧
      ((m.classifyAnew task).1.gaming = false →
        (m.classifyAnew task).1.proton = false ∧ (m.classifyAnew task).1.gpuFeeder = false) ∧
      ∀ s : TaskState, s.flags.classified = false →
        (m.classify task s).1 = (m.classifyAnew task).1 ∧
          (m.classify task s).2.2.counters = (m.classifyAnew task).2.counters := by
  have hstate : ∀ s : TaskState, s.flags.classified = false →
      (m.classify task s).1 = (m.classifyAnew task).1 ∧
        (m.classify task s).2.2.counters = (m.classifyAnew task).2.counters :=
    fun s hs => m.classify_of_unclassified task hs
  rcases cascade_cases m.hints m.host task m.counters with
    ⟨source, hit, feeder, hfirst, hr⟩ | ⟨hsilent, d, hr⟩
  · have hr : (m.classifyAnew task).1 = .ofHit hit feeder := hr
    refine ⟨?_, ?_, ?_, hstate⟩ <;> rw [hr]
    · exact iff_of_true rfl ⟨source, hit, feeder, hfirst.detects⟩
    · intro source' hit' feeder' hfirst'
      obtain ⟨rfl, rfl⟩ := hfirst.unique hfirst'
      exact ⟨rfl, rfl⟩
    · intro hno
      cases hno
  · have hr : (m.classifyAnew task).1 = .other (fallbackClass m.hints task d).1 := hr
    refine ⟨?_, ?_, ?_, hstate⟩ <;> rw [hr]
    · refine iff_of_false Bool.false_ne_true ?_
      rintro ⟨source, hit, feeder, hdetects⟩
      exact hsilent source hit feeder hdetects
    · intro source hit feeder hfirst
      exact absurd hfirst.detects (hsilent source hit feeder)
    · exact fun _ => ⟨rfl, rfl⟩

/-- A line of processes, each the parent of the one after it.  The first is its own parent, and the
third is a launcher. -/
def longLine : Host :=
  [(17, 17, "init"), (16, 17, "sh"), (15, 16, "steam"), (14, 15, "sh"), (13, 14, "sh"),
    (12, 13, "sh"), (11, 12, "sh"), (10, 11, "make"), (9, 10, "cc1")].foldl
      (fun h p => h.addProcess p.1 p.2.1 p.2.2) (.ofTopology .twoDomains)

/-- The launcher is the fifth ancestor of one task, and the sixth of the next one. -/
theorem classified_by_first_source_longLine :
    let m := make .twoDomains {} none {} longLine
    DetectsFirst {} longLine (Engine.player 10 "make") .ancestors .native false ∧
      (m.classifyAnew (Engine.player 10 "make")).1.gaming = true ∧
      (m.classifyAnew (Engine.player 10 "make")).1.proton = false ∧
      (m.classifyAnew (Engine.player 10 "make")).1.gpuFeeder = false ∧
      (m.classifyAnew (Engine.player 9 "cc1")).1.gaming = false ∧
      (m.classifyAnew (Engine.player 9 "cc1")).1.proton = false ∧
      (m.classify (Engine.player 9 "cc1") {}).1 = (m.classifyAnew (Engine.player 9 "cc1")).1 := by
  intro m
  obtain ⟨hgaming, hfirst, -⟩ := m.classified_by_first_source (Engine.player 10 "make")
  obtain ⟨-, -, hother, hstate⟩ := m.classified_by_first_source (Engine.player 9 "cc1")
  have hdetects : DetectsFirst {} longLine (Engine.player 10 "make") .ancestors .native false := by
    refine ⟨detects_ancestors_iff.2 ⟨by decide +kernel, rfl⟩, ?_⟩
    refine ((silentBefore_zero.succ rfl (silent_name ?_)).succ rfl (silent_process ?_)).succ rfl
      (silent_cgroup ?_) <;> decide +kernel
  have hno : (m.classifyAnew (Engine.player 9 "cc1")).1.gaming = false := by decide +kernel
  obtain ⟨hproton, hfeeder⟩ := hfirst .ancestors .native false hdetects
  exact ⟨hdetects, hgaming.2 ⟨_, _, _, hdetects.detects⟩, hproton, hfeeder, hno, (hother hno).1,
    (hstate {} rfl).1⟩

/-! ## The class and the flag -/

/-- No source says that a task is gaming, and of the other hints that for its container does. -/
structure Misled (m : Machine) (task : Task) : Prop where
  /-- No source says so. -/
  silent : ∀ source, Silent m.hints m.host task source
  /-- A hint for a virtual core, if there is any, does not come first. -/
  plain : ∀ k, m.hints.vmVcpus[task.pid]? = some k → k.isSpecific = false
  /-- The hint for the container says gaming. -/
  container : m.hints.containers[task.tgid]? = some .gaming

lemma class_agrees_iff :
    ((m.classifyAnew task).1.workload = .gaming ↔ (m.classifyAnew task).1.gaming = true) ↔
      ¬m.Misled task := by
  rcases cascade_cases m.hints m.host task m.counters with
    ⟨source, hit, feeder, hfirst, hr⟩ | ⟨hsilent, d, hr⟩
  · rw [show (m.classifyAnew task).1 = .ofHit hit feeder from hr]
    refine iff_of_true (iff_of_true rfl rfl) fun hmisled => ?_
    exact hmisled.silent source hit feeder hfirst.detects
  · rw [show (m.classifyAnew task).1 = .other (fallbackClass m.hints task d).1 from hr]
    have hclass : (fallbackClass m.hints task d).1 = .gaming ↔ m.Misled task :=
      (fallbackClass_eq_gaming_iff m.hints task d).trans
        ⟨fun ⟨hplain, hcontainer⟩ => ⟨hsilent, hplain, hcontainer⟩, fun h => ⟨h.plain, h.container⟩⟩
    -- the task is not gaming, so that its class has to be another one
    rw [← hclass]
    exact ⟨fun hiff hgaming => absurd (hiff.1 hgaming) Bool.false_ne_true,
      fun hno => iff_of_false hno Bool.false_ne_true⟩

/-- A task does gaming work if and only if it is gaming, but for tasks that are misled: no source says
that such a task is gaming, and the hint for its container does.  It makes no difference whether the
task has a state, and the answer stays as it is once it is kept there. -/
theorem class_agrees_unless_misled :
    (((m.classifyAnew task).1.workload = .gaming ↔ (m.classifyAnew task).1.gaming = true) ↔
        ¬m.Misled task) ∧
      ∀ s : TaskState, s.flags.classified = false →
        (m.classify task s).1 = (m.classifyAnew task).1 ∧
          ∀ (n : Machine) (task' : Task),
            (n.classify task' (m.classify task s).2.1).1 = (m.classifyAnew task).1 := by
  refine ⟨m.class_agrees_iff task, fun s hs => ?_⟩
  have hanew := (m.classify_of_unclassified task hs).1
  refine ⟨hanew, fun n task' => ?_⟩
  rw [n.classify_of_classified task' (m.classified_classify task s), m.ofState_classify, hanew]

/-- A machine that knows of one container, which it takes for a game. -/
def withGameContainer : Machine :=
  make .twoDomains {} none { containers := .ofEntries [(7, .gaming)] } (.ofTopology .twoDomains)

/-- A task in the container is not gaming and does gaming work. -/
theorem container_makes_gaming_work :
    (withGameContainer.classifyAnew (Engine.player 7 "python3")).1 = { workload := .gaming } ∧
      (withGameContainer.classify (Engine.player 7 "python3") {}).1 = { workload := .gaming } ∧
      ¬((withGameContainer.classifyAnew (Engine.player 7 "python3")).1.workload = .gaming ↔
        (withGameContainer.classifyAnew (Engine.player 7 "python3")).1.gaming = true) := by
  decide +kernel

/-- Another task with that name is not misled, and goes on not to be when it is in the container by
then. -/
theorem class_agrees_unless_misled_besideContainer :
    let m := make .twoDomains {} none {} (.ofTopology .twoDomains)
    ¬m.Misled (Engine.player 7 "python3") ∧
      ((m.classifyAnew (Engine.player 7 "python3")).1.workload = .gaming ↔
        (m.classifyAnew (Engine.player 7 "python3")).1.gaming = true) ∧
      withGameContainer.Misled (Engine.player 7 "python3") ∧
      (withGameContainer.classify (Engine.player 7 "python3")
        (m.classify (Engine.player 7 "python3") {}).2.1).1 = .other .batch := by
  intro m
  obtain ⟨hagree, hstate⟩ := m.class_agrees_unless_misled (Engine.player 7 "python3")
  obtain ⟨hmisled, -⟩ := withGameContainer.class_agrees_unless_misled (Engine.player 7 "python3")
  have hplain : ¬m.Misled (Engine.player 7 "python3") := fun h =>
    absurd h.container (by decide +kernel)
  refine ⟨hplain, hagree.2 hplain, not_not.1 fun hno => ?_, ?_⟩
  · exact absurd (hmisled.2 hno) (by decide +kernel)
  · rw [(hstate {} rfl).2]
    decide +kernel

end Machine

end CoreSteer
