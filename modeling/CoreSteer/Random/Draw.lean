import CoreSteer.Random.KeyStream
/-!
# Drawing from a range

A `DrawSource` gives random numbers between two bounds; a `LawfulDrawSource` never leaves them.
Whatever runs on draws is written for any source, so that what holds for every lawful source holds
for every outcome of the draws.

The source that simulations run on multiplies a word by the size of the range and takes the high
half.  Words whose low half lies in the last, incomplete stretch are passed over, so that every
number of the range is equally likely.
-/
namespace CoreSteer.Random

/-- A source of random numbers between two bounds, both included. -/
class DrawSource (ρ : Type) where
  /-- A draw that uses 64-bit words. -/
  draw64 : (lo hi : Nat) → ρ → Nat × ρ
  /-- A draw that uses 32-bit words. -/
  draw32 : (lo hi : Nat) → ρ → Nat × ρ

/-- A source that stays between the bounds. -/
class LawfulDrawSource (ρ : Type) [DrawSource ρ] : Prop where
  /-- No draw is below its lower bound. -/
  le_draw64 : ∀ {lo hi : Nat} (r : ρ), lo ≤ hi → lo ≤ (DrawSource.draw64 lo hi r).1
  /-- No draw is above its upper bound. -/
  draw64_le : ∀ {lo hi : Nat} (r : ρ), lo ≤ hi → (DrawSource.draw64 lo hi r).1 ≤ hi
  /-- No draw is below its lower bound. -/
  le_draw32 : ∀ {lo hi : Nat} (r : ρ), lo ≤ hi → lo ≤ (DrawSource.draw32 lo hi r).1
  /-- No draw is above its upper bound. -/
  draw32_le : ∀ {lo hi : Nat} (r : ρ), lo ≤ hi → (DrawSource.draw32 lo hi r).1 ≤ hi

/-- How many words of `bits` bits there are. -/
def wordCount (bits : Nat) : Nat := 1 <<< bits

/-- The largest low half that is accepted for a range of a given size and words of `bits` bits:
the size moved up until it fills a word, less one. -/
def acceptLimit (bits size : Nat) : Nat := size <<< (bits - 1 - size.log2) - 1

/-- How many words a draw passes over before it takes the lower bound.  Each word is passed over
with a chance below one half. -/
def drawTries : Nat := 1000

/-- An offset below `size`, from words of `bits` bits. -/
def offset {ρ : Type} (bits size : Nat) (next : ρ → Nat × ρ) : (tries : Nat) → ρ → Nat × ρ
  | 0, r => (0, r)
  | tries + 1, r =>
    let (word, r) := next r
    if word * size % wordCount bits ≤ acceptLimit bits size then
      (word * size / wordCount bits, r)
    else offset bits size next tries r

/-- A number between two bounds, from words of `bits` bits; any word will do where the range has
as many numbers as there are words. -/
def between {ρ : Type} (bits : Nat) (next : ρ → Nat × ρ) (lo hi : Nat) (r : ρ) : Nat × ρ :=
  let size := hi - lo + 1
  if size = wordCount bits then
    let (word, r) := next r
    (lo + word % size, r)
  else
    let (n, r) := offset bits size next drawTries r
    (lo + n, r)

instance : DrawSource KeyStream where
  draw64 := between 64 fun s => (s.next64.1.toNat, s.next64.2)
  draw32 := between 32 fun s => (s.next32.1.toNat, s.next32.2)

theorem offset_lt {ρ : Type} {bits size : Nat} {next : ρ → Nat × ρ} (hs : 0 < size)
    (hn : ∀ r, (next r).1 < wordCount bits) (tries : Nat) (r : ρ) :
    (offset bits size next tries r).1 < size := by
  induction tries generalizing r with
  | zero => exact hs
  | succ tries ih =>
    simp only [offset]
    split
    · exact Nat.div_lt_of_lt_mul (Nat.mul_lt_mul_of_pos_right (hn r) hs)
    · exact ih _

theorem le_between {ρ : Type} {bits : Nat} {next : ρ → Nat × ρ} {lo hi : Nat} (r : ρ) :
    lo ≤ (between bits next lo hi r).1 := by
  simp only [between]
  split <;> exact Nat.le_add_right _ _

theorem between_le {ρ : Type} {bits : Nat} {next : ρ → Nat × ρ} {lo hi : Nat} (r : ρ)
    (hn : ∀ r, (next r).1 < wordCount bits) (h : lo ≤ hi) : (between bits next lo hi r).1 ≤ hi := by
  simp only [between]
  split
  · have := Nat.mod_lt (next r).1 (Nat.succ_pos (hi - lo))
    simp only [Nat.succ_eq_add_one] at this
    omega
  · have := offset_lt (Nat.succ_pos (hi - lo)) hn drawTries r
    simp only [Nat.succ_eq_add_one] at this
    omega

instance : LawfulDrawSource KeyStream where
  le_draw64 r _ := le_between r
  draw64_le r h := between_le r (fun s => s.next64.1.toNat_lt) h
  le_draw32 r _ := le_between r
  draw32_le r h := between_le r (fun s => s.next32.1.toNat_lt) h

end CoreSteer.Random
