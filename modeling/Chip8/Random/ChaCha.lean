/-!
# The ChaCha block function

A block of sixteen 32-bit words from a key of eight words and a 64-bit block number, with a choice
of double rounds. The nonce is zero.

The words stand in a square of four rows. A round mixes the four columns; turning the rows before it
and back after it makes it mix the diagonals.
-/

namespace Chip8.Random.ChaCha

/-- The key: eight words. -/
abbrev Key := Vector UInt32 8

/-- Four words, one in each column. -/
abbrev Row := Vector UInt32 4

/-- The working state: four rows, the uppermost first. -/
structure Square where
  a : Row
  b : Row
  c : Row
  d : Row

/-! ## Rows -/

def rotateLeft (bits word : UInt32) : UInt32 := word <<< bits ||| word >>> (32 - bits)

/-- The sums of two rows. -/
def Row.add (r s : Row) : Row := r.zipWith (· + ·) s

/-- The exclusive or of two rows, each word rotated left. -/
def Row.mix (bits : UInt32) (r s : Row) : Row := r.zipWith (fun x y => rotateLeft bits (x ^^^ y)) s

/-- The row turned left by `count` columns. -/
def Row.turn (count : Nat) (r : Row) : Row :=
  Vector.ofFn fun i => r.get ⟨(i.val + count) % 4, Nat.mod_lt _ (by decide)⟩

/-! ## Rounds -/

namespace Square

/-- Mixes the words of every column. -/
def columnRound (s : Square) : Square :=
  let a := s.a.add s.b
  let d := s.d.mix 16 a
  let c := s.c.add d
  let b := s.b.mix 12 c
  let a := a.add b
  let d := d.mix 8 a
  let c := c.add d
  let b := b.mix 7 c
  { a := a, b := b, c := c, d := d }

/-- Turns the rows so that the diagonals become columns. -/
def slant (s : Square) : Square :=
  { a := s.a, b := s.b.turn 1, c := s.c.turn 2, d := s.d.turn 3 }

/-- Turns the rows back. -/
def straighten (s : Square) : Square :=
  { a := s.a, b := s.b.turn 3, c := s.c.turn 2, d := s.d.turn 1 }

/-- One round on the columns and one on the diagonals. -/
def doubleRound (s : Square) : Square := s.columnRound.slant.columnRound.straighten

def doubleRounds : (count : Nat) → Square → Square
  | 0, s => s
  | count + 1, s => doubleRounds count s.doubleRound

/-- The sums of two squares. -/
def add (s t : Square) : Square :=
  { a := s.a.add t.a, b := s.b.add t.b, c := s.c.add t.c, d := s.d.add t.d }

/-- The words row after row. -/
def words (s : Square) : Vector UInt32 16 := s.a ++ s.b ++ s.c ++ s.d

end Square

/-! ## Blocks -/

/-- The square before the first round: four constants, the key, the block number with its low word
first, and the zero nonce. -/
def start (key : Key) (number : UInt64) : Square :=
  { a := #v[0x61707865, 0x3320646E, 0x79622D32, 0x6B206574]
    b := #v[key[0], key[1], key[2], key[3]]
    c := #v[key[4], key[5], key[6], key[7]]
    d := #v[number.toUInt32, (number >>> 32).toUInt32, 0, 0] }

/-- The block of a number: the rounds, then the addition of the square they started from. -/
def block (count : Nat) (key : Key) (number : UInt64) : Vector UInt32 16 :=
  let s := start key number
  ((s.doubleRounds count).add s).words

end Chip8.Random.ChaCha
