/-!
# Sets of cores

A `CpuMask` is a set of core numbers below `maxCpus`, held as one bit per core.  Core numbers
from `maxCpus` on are never members, and adding one of them changes nothing.  What a mask holds
is read off `CpuMask.test`; `CpuMask.toList` lists the members in ascending order.
-/
namespace CoreSteer

/-- One more than the largest core number that a mask can hold. -/
def maxCpus : Nat := 256

/-- A set of core numbers below `maxCpus`. -/
structure CpuMask where
  /-- Bit `c` is set when core `c` is a member. -/
  bits : BitVec 256
deriving DecidableEq

namespace CpuMask

/-- The set without members. -/
def empty : CpuMask := ⟨0⟩

instance : Inhabited CpuMask := ⟨empty⟩

/-- Whether core `c` is a member. -/
def test (m : CpuMask) (c : Nat) : Bool := decide (c < maxCpus) && m.bits.getLsbD c

/-- Add core `c`; nothing happens to a number that no mask can hold. -/
def set (m : CpuMask) (c : Nat) : CpuMask :=
  if c < maxCpus then ⟨m.bits ||| BitVec.twoPow 256 c⟩ else m

/-- Take core `c` out. -/
def clear (m : CpuMask) (c : Nat) : CpuMask :=
  if c < maxCpus then ⟨m.bits &&& ~~~BitVec.twoPow 256 c⟩ else m

/-- The cores in both sets. -/
def inter (m n : CpuMask) : CpuMask := ⟨m.bits &&& n.bits⟩

instance : Inter CpuMask := ⟨inter⟩

/-- The set of the listed cores. -/
def ofList (cs : List Nat) : CpuMask := cs.foldl set empty

/-- The cores below `n`. -/
def firstN (n : Nat) : CpuMask := ofList (List.range (min n maxCpus))

/-- Whether there are no members. -/
def isEmpty (m : CpuMask) : Bool := m.bits == 0

/-- The members in ascending order. -/
def toList (m : CpuMask) : List Nat :=
  (List.range (m.bits.toNat.log2 + 1)).filter m.test

/-- The number of members. -/
def weight (m : CpuMask) : Nat := m.toList.length

instance : Membership Nat CpuMask := ⟨fun m c => m.test c = true⟩

instance (c : Nat) (m : CpuMask) : Decidable (c ∈ m) :=
  inferInstanceAs (Decidable (m.test c = true))

/-! ## What each operation does to the members -/

theorem mem_def {m : CpuMask} {c : Nat} : c ∈ m ↔ m.test c = true := Iff.rfl

theorem lt_of_mem {m : CpuMask} {c : Nat} (h : c ∈ m) : c < maxCpus := by
  simp only [mem_def, test, Bool.and_eq_true, decide_eq_true_eq] at h
  exact h.1

@[simp] theorem test_empty (c : Nat) : empty.test c = false := by
  simp [test, empty]

theorem test_set (m : CpuMask) (c d : Nat) :
    (m.set c).test d = (m.test d || (decide (d < maxCpus) && decide (d = c))) := by
  by_cases h : c < maxCpus
  · have hc : c < 256 := h
    by_cases hd : d < 256 <;> simp [set, test, hc, hd, BitVec.getLsbD_twoPow, maxCpus,
      eq_comm (a := c)]
  · simp only [set, h, if_false]
    by_cases hd : d = c <;> simp [hd, h]

theorem test_clear (m : CpuMask) (c d : Nat) :
    (m.clear c).test d = (m.test d && !decide (d = c)) := by
  by_cases h : c < maxCpus
  · have hc : c < 256 := h
    by_cases hd : d < 256 <;> simp [clear, test, hc, hd, BitVec.getLsbD_twoPow, maxCpus,
      eq_comm (a := c)]
  · simp only [clear, h, if_false]
    by_cases hd : d = c
    · simp [hd, test, h]
    · simp [hd]

@[simp] theorem test_inter (m n : CpuMask) (c : Nat) :
    (m ∩ n).test c = (m.test c && n.test c) := by
  show (inter m n).test c = _
  by_cases h : c < maxCpus <;> simp [inter, test, h]

theorem mem_set {m : CpuMask} {c d : Nat} :
    d ∈ m.set c ↔ d ∈ m ∨ (d < maxCpus ∧ d = c) := by
  simp [mem_def, test_set]

theorem mem_clear {m : CpuMask} {c d : Nat} : d ∈ m.clear c ↔ d ∈ m ∧ d ≠ c := by
  simp [mem_def, test_clear]

theorem mem_inter {m n : CpuMask} {c : Nat} : c ∈ m ∩ n ↔ c ∈ m ∧ c ∈ n := by
  simp [mem_def]

theorem not_mem_empty (c : Nat) : ¬ c ∈ empty := by
  simp [mem_def]

theorem mem_foldl_set {cs : List Nat} {m : CpuMask} {c : Nat} :
    c ∈ cs.foldl set m ↔ c ∈ m ∨ (c < maxCpus ∧ c ∈ cs) := by
  induction cs generalizing m with
  | nil => simp
  | cons d cs ih =>
    rw [List.foldl_cons, ih, mem_set, List.mem_cons, or_assoc, ← and_or_left]

theorem mem_ofList {cs : List Nat} {c : Nat} : c ∈ ofList cs ↔ c < maxCpus ∧ c ∈ cs := by
  simp [ofList, mem_foldl_set, not_mem_empty]

theorem mem_firstN {n c : Nat} : c ∈ firstN n ↔ c < maxCpus ∧ c < n := by
  rw [firstN, mem_ofList, List.mem_range]
  omega

theorem mem_toList {m : CpuMask} {c : Nat} : c ∈ m.toList ↔ c ∈ m := by
  simp only [toList, List.mem_filter, List.mem_range, mem_def, and_iff_right_iff_imp]
  intro h
  simp only [test, Bool.and_eq_true, decide_eq_true_eq] at h
  refine Nat.lt_of_not_le fun hle => ?_
  have hlt : m.bits.toNat < 2 ^ c :=
    Nat.lt_of_lt_of_le Nat.lt_log2_self (Nat.pow_le_pow_right (by decide) hle)
  have hbit : m.bits.toNat.testBit c = true := h.2
  rw [Nat.testBit_lt_two_pow hlt] at hbit
  exact absurd hbit (by decide)

theorem pairwise_toList (m : CpuMask) : m.toList.Pairwise (· < ·) :=
  List.pairwise_lt_range.filter _

/-- A mask is determined by its members. -/
theorem ext_mem {m n : CpuMask} (h : ∀ c, c ∈ m ↔ c ∈ n) : m = n := by
  rcases m with ⟨a⟩
  rcases n with ⟨b⟩
  congr 1
  refine BitVec.eq_of_getLsbD_eq fun i hi => ?_
  have hi' : i < maxCpus := hi
  have := h i
  simp only [mem_def, test, hi', decide_true, Bool.true_and] at this
  exact Bool.eq_iff_iff.2 this

theorem isEmpty_iff {m : CpuMask} : m.isEmpty = true ↔ ∀ c, ¬ c ∈ m := by
  constructor
  · intro h c
    have : m = empty := by
      rcases m with ⟨b⟩
      simpa [isEmpty, empty] using h
    simp [this, not_mem_empty]
  · intro h
    have : m = empty :=
      ext_mem fun c => ⟨fun hc => absurd hc (h c), fun hc => absurd hc (not_mem_empty c)⟩
    simp [this, isEmpty, empty]

end CpuMask

end CoreSteer
