/-!
# Sums kept in machine words

Counters and accumulated times are natural numbers below a power of two, and adding to one of
them wraps around.  So does adding a length of time to a clock reading, and so does the counter that
gives ids to new threads.  Clock readings, lengths of time, task ids and core numbers are otherwise
plain natural numbers.

Four 64-bit counters are plain natural numbers as well: how many tasks were ever put into a dispatch
queue (`arrivals`), how many appointments were ever made (`made`), how many runs a core has begun
(`generation`), and how many appointments were kept (`processed`).  They only grow, by one at a time,
so they are exact below two to the power of 64.
-/
namespace CoreSteer

/-- The largest value of a 64-bit word. -/
def maxWord : Nat := 18446744073709551615

/-- What a 64-bit word keeps of a number: its remainder modulo two to the power of 64. -/
def wrap64 (n : Nat) : Nat := n % UInt64.size

/-- What a 32-bit word keeps of a number: its remainder modulo two to the power of 32. -/
def wrap32 (n : Nat) : Nat := n % UInt32.size

/-- A number cut down to the largest 64-bit word where it exceeds it. -/
def saturate64 (n : Nat) : Nat := min n maxWord

theorem wrap64_lt (n : Nat) : wrap64 n < UInt64.size := Nat.mod_lt n (by decide)

theorem wrap64_of_lt {n : Nat} (h : n < UInt64.size) : wrap64 n = n := Nat.mod_eq_of_lt h

theorem wrap64_le (n : Nat) : wrap64 n ≤ n := Nat.mod_le n UInt64.size

@[simp] theorem wrap64_wrap64_add (m n : Nat) : wrap64 (wrap64 m + n) = wrap64 (m + n) :=
  Nat.mod_add_mod m UInt64.size n

theorem wrap32_of_lt {n : Nat} (h : n < UInt32.size) : wrap32 n = n := Nat.mod_eq_of_lt h

end CoreSteer
