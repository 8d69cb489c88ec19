/-!
# The stream of random words

The words of a simulation come from the ChaCha stream cipher with twelve rounds.  A 64-bit seed is
spread over the eight words of the key by a permuted congruential generator; the blocks of the
stream are numbered from zero, and their words follow each other without a gap.
-/
namespace CoreSteer.Random

/-- The four constant words of a block's input. -/
def constants : List UInt32 := [0x61707865, 0x3320646e, 0x79622d32, 0x6b206574]

/-- One step of the generator that spreads the seed. -/
def seedStep (state : UInt64) : UInt64 := state * 6364136223846793005 + 11634580027462260723

/-- A word turned right by `n` places. -/
def rotateRight (x : UInt32) (n : UInt32) : UInt32 := (x >>> n) ||| (x <<< (32 - n))

/-- A word turned left by `n` places, `n` between 1 and 31. -/
def rotateLeft (x : UInt32) (n : UInt32) : UInt32 := (x <<< n) ||| (x >>> (32 - n))

/-- The word that a state of the seed generator gives. -/
def seedWord (state : UInt64) : UInt32 :=
  let x := (((state >>> 18) ^^^ state) >>> 27).toUInt32
  let n := (state >>> 59).toUInt32
  if n = 0 then x else rotateRight x n

/-- The next `n` words of the seed generator. -/
def seedWords : (n : Nat) → UInt64 → List UInt32
  | 0, _ => []
  | n + 1, state => seedWord (seedStep state) :: seedWords n (seedStep state)

/-- Mix four words of a block. -/
def quarter (v : Vector UInt32 16) (a b c d : Fin 16) : Vector UInt32 16 :=
  let v := v.set a (v[a] + v[b])
  let v := v.set d (rotateLeft (v[d] ^^^ v[a]) 16)
  let v := v.set c (v[c] + v[d])
  let v := v.set b (rotateLeft (v[b] ^^^ v[c]) 12)
  let v := v.set a (v[a] + v[b])
  let v := v.set d (rotateLeft (v[d] ^^^ v[a]) 8)
  let v := v.set c (v[c] + v[d])
  v.set b (rotateLeft (v[b] ^^^ v[c]) 7)

/-- Mix the columns, then the diagonals. -/
def doubleRound (v : Vector UInt32 16) : Vector UInt32 16 :=
  let v := quarter v 0 4 8 12
  let v := quarter v 1 5 9 13
  let v := quarter v 2 6 10 14
  let v := quarter v 3 7 11 15
  let v := quarter v 0 5 10 15
  let v := quarter v 1 6 11 12
  let v := quarter v 2 7 8 13
  quarter v 3 4 9 14

/-- A block's input: the constants, the key, the block's number, and two zero words. -/
def blockInput (key : List UInt32) (number : UInt64) : Vector UInt32 16 :=
  let words := constants ++ key ++ [number.toUInt32, (number >>> 32).toUInt32]
  Vector.ofFn fun i => words.getD i 0

/-- The words of a block: its input mixed by twelve rounds, with the input added. -/
def block (key : List UInt32) (number : UInt64) : List UInt32 :=
  let input := blockInput key number
  let mixed := Nat.repeat doubleRound 6 input
  (Vector.zipWith (· + ·) mixed input).toList

/-- A place in a stream. -/
structure KeyStream where
  /-- The eight words of the key. -/
  key : List UInt32
  /-- The number of the next block. -/
  number : UInt64
  /-- The words of the block before it that are still to come. -/
  pending : List UInt32

namespace KeyStream

/-- The start of the stream of a seed. -/
def ofSeed (seed : UInt64) : KeyStream := ⟨seedWords 8 seed, 0, []⟩

/-- The next word. -/
def next32 (s : KeyStream) : UInt32 × KeyStream :=
  match s.pending with
  | w :: rest => (w, { s with pending := rest })
  | [] =>
    match block s.key s.number with
    | w :: rest => (w, { s with number := s.number + 1, pending := rest })
    | [] => (0, { s with number := s.number + 1 })

/-- The next two words, the low one first. -/
def next64 (s : KeyStream) : UInt64 × KeyStream :=
  let (low, s) := s.next32
  let (high, s) := s.next32
  (low.toUInt64 ||| (high.toUInt64 <<< 32), s)

end KeyStream

end CoreSteer.Random
