/-!
# Reading bytes as text

UTF-8 read without failure: each maximal run of bytes that begins a character but does not finish
it, and each byte that cannot begin one, is read as the replacement character.
-/
namespace CoreSteer.Text

/-- What stands for bytes that are not text. -/
def replacement : Char := '\uFFFD'

/-- How many bytes follow a leading byte, and the range of the first of them; nothing for a byte
that cannot lead.  The range rules out overlong forms, surrogates and numbers above the last
code point. -/
def leading (b : UInt8) : Option (Nat × UInt8 × UInt8) :=
  if b < 0x80 then some (0, 0x80, 0xBF)
  else if b < 0xC2 then none
  else if b < 0xE0 then some (1, 0x80, 0xBF)
  else if b = 0xE0 then some (2, 0xA0, 0xBF)
  else if b = 0xED then some (2, 0x80, 0x9F)
  else if b < 0xF0 then some (2, 0x80, 0xBF)
  else if b = 0xF0 then some (3, 0x90, 0xBF)
  else if b < 0xF4 then some (3, 0x80, 0xBF)
  else if b = 0xF4 then some (3, 0x80, 0x8F)
  else none

/-- The bits of the code point that a leading byte carries. -/
def leadingBits (b : UInt8) (more : Nat) : Nat :=
  match more with
  | 0 => b.toNat
  | 1 => b.toNat % 32
  | 2 => b.toNat % 16
  | _ => b.toNat % 8

/-- Read the `more` bytes that are still to come of a character, the next of them between `lo`
and `hi`: the character, or nothing where a byte is missing or out of range, and the bytes after
what was read. -/
def continuation : (more : Nat) → (lo hi : UInt8) → (bits : Nat) → List UInt8 →
    Option Char × List UInt8
  | 0, _, _, bits, rest => (some (Char.ofNat bits), rest)
  | more + 1, lo, hi, bits, b :: rest =>
    if lo ≤ b ∧ b ≤ hi then continuation more 0x80 0xBF (bits * 64 + b.toNat % 64) rest
    else (none, b :: rest)
  | _ + 1, _, _, _, [] => (none, [])

theorem length_continuation_le (more : Nat) (lo hi : UInt8) (bits : Nat) (bs : List UInt8) :
    (continuation more lo hi bits bs).2.length ≤ bs.length := by
  induction more generalizing lo hi bits bs with
  | zero => simp [continuation]
  | succ more ih =>
    cases bs with
    | nil => simp [continuation]
    | cons b rest =>
      rw [continuation]
      split
      · exact Nat.le_succ_of_le (ih _ _ _ _)
      · exact Nat.le_refl _

/-- The characters that bytes spell, with the replacement character where they spell none. -/
def decodeLossy : List UInt8 → List Char
  | [] => []
  | b :: rest =>
    match leading b with
    | none => replacement :: decodeLossy rest
    | some (more, lo, hi) =>
      (continuation more lo hi (leadingBits b more) rest).1.getD replacement ::
        decodeLossy (continuation more lo hi (leadingBits b more) rest).2
termination_by bs => bs.length
decreasing_by
  · simp
  · exact Nat.lt_succ_of_le (length_continuation_le _ _ _ _ _)

/-- The characters that bytes spell, or nothing where some bytes spell none. -/
def decode? (bs : ByteArray) : Option String := String.fromUTF8? bs

end CoreSteer.Text
