import CoreSteer.CpuMask.Basic
/-!
# The range list of a set of cores

A set of cores is written as its maximal runs of consecutive numbers, in ascending order and
separated by commas: a run of one core as its number, a longer run as its ends with a hyphen
between them.  The empty set is written as nothing.
-/
namespace CoreSteer

/-- The cores from `first` to `last`. -/
structure CpuRange where
  /-- The smallest core. -/
  first : Nat
  /-- The largest core. -/
  last : Nat
deriving DecidableEq

namespace CpuRange

/-- The cores of a range, in ascending order. -/
def toList (r : CpuRange) : List Nat :=
  (List.range (r.last + 1 - r.first)).map (r.first + ·)

/-- One number, or two with a hyphen between them. -/
def render (r : CpuRange) : String :=
  if r.first = r.last then toString r.first else s!"{r.first}-{r.last}"

/-- Put core `c` in front of ranges that all start above it. -/
def consCpu (c : Nat) : List CpuRange → List CpuRange
  | [] => [⟨c, c⟩]
  | r :: rs => if r.first = c + 1 then ⟨c, r.last⟩ :: rs else ⟨c, c⟩ :: r :: rs

/-- The maximal runs of consecutive numbers in an ascending list. -/
def ofCpus (cs : List Nat) : List CpuRange := cs.foldr consCpu []

end CpuRange

namespace CpuMask

/-- The maximal runs of consecutive cores of a set, in ascending order. -/
def ranges (m : CpuMask) : List CpuRange := CpuRange.ofCpus m.toList

/-- The range list of a set of cores. -/
def render (m : CpuMask) : String := ",".intercalate (m.ranges.map CpuRange.render)

end CpuMask

end CoreSteer
