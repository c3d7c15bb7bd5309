import Chip8.Random.ChaCha

/-!
# The random stream

A 64-bit seed is stretched to a key, and the key names an endless stream of 32-bit words: the
twelve-round ChaCha blocks 0, 1, 2, … one after the other. A generator is a place in such a stream.

Results:
* `eq_atPlace`: a generator is nothing but its key and its place.
* `drop_eq_atPlace`: skipping words moves the place on.
* `nextByte_fst`: a draw gives the low byte of the word at the place of the generator.
-/

namespace Chip8.Random

/-! ## From seed to key -/

/-- One step of the 64-bit linear congruential sequence that stretches a seed. -/
def seedStep (state : UInt64) : UInt64 := state * 6364136223846793005 + 11634580027462260723

/-- The word that a state of the sequence gives: the folded high bits, rotated right by the top five
bits. -/
def seedWord (state : UInt64) : UInt32 :=
  let folded := (((state >>> 18) ^^^ state) >>> 27).toUInt32
  let turn := (state >>> 59).toUInt32
  folded >>> turn ||| folded <<< (32 - turn)

/-- The state after `n` steps. -/
def seedState (seed : UInt64) : (n : Nat) → UInt64
  | 0 => seed
  | n + 1 => seedStep (seedState seed n)

/-- The key of a seed: the words after one, two, … eight steps. -/
def keyOfSeed (seed : UInt64) : ChaCha.Key := Vector.ofFn fun i => seedWord (seedState seed (i + 1))

/-! ## The stream -/

/-- The block of the stream of a key that word `n` stands in. -/
def blockAround (key : ChaCha.Key) (n : Nat) : Vector UInt32 16 :=
  ChaCha.block 6 key (UInt64.ofNat (n / 16))

/-- The word of a block that word `n` of the stream is. -/
def wordIn (block : Vector UInt32 16) (n : Nat) : UInt32 :=
  block.get ⟨n % 16, Nat.mod_lt _ (by decide)⟩

/-- Word `n` of the stream of a key. -/
def streamWord (key : ChaCha.Key) (n : Nat) : UInt32 := wordIn (blockAround key n) n

theorem blockAround_of_div_eq (key : ChaCha.Key) {m n : Nat} (h : m / 16 = n / 16) :
    blockAround key m = blockAround key n := by
  rw [blockAround, blockAround, h]

/-- A place in the stream of a key: the number of words already drawn. The block around that place
is kept at hand. -/
structure Generator where
  key : ChaCha.Key
  drawn : Nat
  block : Vector UInt32 16
  block_eq : block = blockAround key drawn
deriving DecidableEq

namespace Generator

/-- The generator that has drawn so many words of the stream of a key. -/
def atPlace (key : ChaCha.Key) (drawn : Nat) : Generator :=
  { key := key, drawn := drawn, block := blockAround key drawn, block_eq := rfl }

/-- The beginning of the stream of a seed (`seed_from_u64`). -/
def ofSeed (seed : UInt64) : Generator := atPlace (keyOfSeed seed) 0

/-- The word that the next draw gives. -/
def word (g : Generator) : UInt32 := wordIn g.block g.drawn

/-- The place `n` words further on. -/
def drop (g : Generator) (n : Nat) : Generator :=
  if h : (g.drawn + n) / 16 = g.drawn / 16 then
    { g with
      drawn := g.drawn + n
      block_eq := g.block_eq.trans (blockAround_of_div_eq g.key h.symm) }
  else atPlace g.key (g.drawn + n)

/-- Draws one word. -/
def next (g : Generator) : UInt32 × Generator := (g.word, g.drop 1)

/-- Draws one word and keeps its low byte. -/
def nextByte (g : Generator) : UInt8 × Generator := (g.next.1.toUInt8, g.next.2)

/-- Key and place say everything. -/
theorem eq_atPlace (g : Generator) : g = atPlace g.key g.drawn := by
  obtain ⟨key, drawn, block, rfl⟩ := g
  rfl

theorem drop_eq_atPlace (g : Generator) (n : Nat) : g.drop n = atPlace g.key (g.drawn + n) := by
  unfold drop
  split
  · exact eq_atPlace _
  · rfl

theorem word_eq_streamWord (g : Generator) : g.word = streamWord g.key g.drawn := by
  rw [word, streamWord, g.block_eq]

theorem nextByte_fst (g : Generator) : g.nextByte.1 = (streamWord g.key g.drawn).toUInt8 := by
  rw [← word_eq_streamWord]
  rfl

end Generator

end Chip8.Random
