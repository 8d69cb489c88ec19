import CoreSteer.Topology.Basic
import Mathlib.Tactic.Lemma
/-!
# What holds of a topology because nothing is wrong with it

`Blueprint.fault?` finds nothing exactly in the blueprints that meet a list of conditions.  A
topology meets them all; so its domains are few enough, each core's domain is one of them, and so
is the low-latency domain.
-/
namespace CoreSteer

namespace Blueprint

lemma uses_iff {b : Blueprint} {d : Nat} :
    b.uses d = true ↔
      ∃ (cpu : Nat) (core : CoreDesc), b.cores[cpu]? = some core ∧ core.domain = d := by
  rw [uses, Array.any_eq_true]
  constructor
  · rintro ⟨cpu, h, hd⟩
    exact ⟨cpu, b.cores[cpu], Array.getElem?_eq_getElem h, by simpa using hd⟩
  · rintro ⟨cpu, core, hc, rfl⟩
    obtain ⟨h, rfl⟩ := Array.getElem?_eq_some_iff.1 hc
    exact ⟨cpu, h, by simp⟩

/-- Nothing is wrong with a core exactly when its domain is in range and its sibling, if it has
one, is another core. -/
lemma coreFault?_eq_none_iff {b : Blueprint} {cpu : Nat} {core : CoreDesc} :
    b.coreFault? cpu core = none ↔
      core.domain < maxDomains ∧ ∀ s, core.sibling = some s → s < b.cores.size ∧ s ≠ cpu := by
  unfold coreFault?
  split
  · next h =>
    simp only [reduceCtorEq, false_iff, not_and]
    omega
  · next h =>
    have hd : core.domain < maxDomains := Nat.lt_of_not_le h
    split
    · next hs => simp [hs, hd]
    · next s hs =>
      simp only [ite_eq_right_iff, reduceCtorEq, imp_false, hs, Option.some.injEq, forall_eq', hd,
        true_and]
      omega

lemma coreFaults_eq_none_iff {b : Blueprint} :
    (b.cores.toList.zipIdx.findSome? fun (core, cpu) => b.coreFault? cpu core) = none ↔
      ∀ cpu core, b.cores[cpu]? = some core → b.coreFault? cpu core = none := by
  rw [List.findSome?_eq_none_iff]
  constructor
  · intro h cpu core hc
    refine h (core, cpu) (List.mk_mem_zipIdx_iff_getElem?.2 ?_)
    simpa using hc
  · rintro h ⟨core, cpu⟩ hm
    have hc := List.mk_mem_zipIdx_iff_getElem?.1 hm
    exact h cpu core (by simpa using hc)

/-- Nothing is wrong exactly when there are between one and `maxCpus` cores, nothing is wrong with
any of them, and the domains that are singled out have cores. -/
theorem fault?_eq_none_iff {b : Blueprint} :
    b.fault? = none ↔
      0 < b.cores.size ∧ b.cores.size ≤ maxCpus ∧
        (∀ cpu core, b.cores[cpu]? = some core → b.coreFault? cpu core = none) ∧
        b.uses b.lowLatencyDomain = true ∧ ∀ d, b.freqDomain = some d → b.uses d = true := by
  rw [← coreFaults_eq_none_iff]
  unfold fault?
  split
  · next h => simp [h]
  · next h =>
    have hpos : 0 < b.cores.size := Nat.pos_of_ne_zero h
    split
    · next hmany =>
      have : ¬ b.cores.size ≤ maxCpus := Nat.not_le.2 hmany
      simp [this]
    · next hmany =>
      have hle : b.cores.size ≤ maxCpus := Nat.le_of_not_lt hmany
      split
      · next e he => simp [he]
      · next he =>
        cases hl : b.uses b.lowLatencyDomain <;> cases hf : b.freqDomain <;>
          simp [he, hpos, hle]

end Blueprint

namespace Topology

variable {t : Topology}

lemma nrCpus_le (t : Topology) : t.nrCpus ≤ maxCpus :=
  (Blueprint.fault?_eq_none_iff.1 t.faultless).2.1

lemma lt_nrCpus {cpu : Nat} {core : CoreDesc} (h : t.core? cpu = some core) : cpu < t.nrCpus := by
  refine Nat.lt_of_not_le fun hle => ?_
  rw [core?_eq_none_iff.2 hle] at h
  cases h

/-- A mask has room for all cores. -/
lemma mem_cpusWhere_iff {p : CoreDesc → Bool} {cpu : Nat} :
    cpu ∈ t.cpusWhere p ↔ ∃ core, t.core? cpu = some core ∧ p core = true := by
  rw [mem_cpusWhere]
  exact and_iff_right_of_imp fun ⟨_, hcore, _⟩ => Nat.lt_of_lt_of_le (lt_nrCpus hcore) t.nrCpus_le

/-- A core that exists belongs to a domain. -/
lemma exists_domainOf?_eq {cpu : Nat} (h : cpu < t.nrCpus) : ∃ d, t.domainOf? cpu = some d := by
  rw [← Option.isSome_iff_exists, Option.isSome_iff_ne_none]
  intro hnone
  have := domainOf?_eq_none_iff.1 hnone
  omega

lemma domain_lt_maxDomains {cpu : Nat} {core : CoreDesc} (h : t.core? cpu = some core) :
    core.domain < maxDomains := by
  obtain ⟨-, -, hcores, -⟩ := Blueprint.fault?_eq_none_iff.1 t.faultless
  exact (Blueprint.coreFault?_eq_none_iff.1 (hcores cpu core h)).1

/-- The number of domains is the least that exceeds the domains of all cores. -/
lemma nrDomains_le_iff {n : Nat} :
    t.nrDomains ≤ n ↔ ∀ cpu core, t.core? cpu = some core → core.domain < n := by
  have hfold : ∀ (l : List CoreDesc) (k : Nat),
      l.foldl (fun n c => max n (c.domain + 1)) k ≤ n ↔ k ≤ n ∧ ∀ c ∈ l, c.domain < n := by
    intro l
    induction l with
    | nil => simp
    | cons c l ih =>
      intro k
      rw [List.foldl_cons, ih, Nat.max_le, List.forall_mem_cons, and_assoc]
      exact Iff.rfl
  rw [nrDomains, ← Array.foldl_toList, hfold]
  constructor
  · rintro ⟨-, h⟩ cpu core hc
    obtain ⟨hlt, rfl⟩ := Array.getElem?_eq_some_iff.1 hc
    exact h _ (by simp)
  · intro h
    refine ⟨Nat.zero_le n, fun c hc => ?_⟩
    obtain ⟨cpu, hcpu, rfl⟩ := Array.mem_iff_getElem.1 (Array.mem_toList_iff.1 hc)
    exact h cpu _ (Array.getElem?_eq_getElem hcpu)

lemma domain_lt {cpu : Nat} {core : CoreDesc} (h : t.core? cpu = some core) :
    core.domain < t.nrDomains :=
  nrDomains_le_iff.1 (Nat.le_refl _) cpu core h

lemma nrDomains_le (t : Topology) : t.nrDomains ≤ maxDomains :=
  nrDomains_le_iff.2 fun _ _ h => domain_lt_maxDomains h

lemma lowLatencyDomain_lt (t : Topology) : t.lowLatencyDomain < t.nrDomains := by
  obtain ⟨-, -, -, huses, -⟩ := Blueprint.fault?_eq_none_iff.1 t.faultless
  obtain ⟨cpu, core, hc, hd⟩ := Blueprint.uses_iff.1 huses
  rw [← hd]
  exact domain_lt hc

/-- Two cores, each with a domain of its own. -/
def twoDomains : Topology where
  kind := .cacheDomains
  cores := #[⟨0, 0, 0, none, true, true, false⟩, ⟨1, 0, 0, none, false, true, false⟩]
  faultless := by decide +kernel

end Topology

end CoreSteer
