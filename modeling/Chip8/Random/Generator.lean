import Chip8.Random.Block

/-!
# The random number generator

A generator is a key, expanded from a seed, and a position in the stream of words which that key
determines.  Drawing a byte takes the low byte of the word at the position and moves one word on.
-/

namespace Chip8
namespace Random

/-- The word of the stream of a key at a position. -/
def word (key : Vector UInt32 8) (position : Nat) : UInt32 :=
  (block key (position / 16)).get (Fin.ofNat 16 position)

/-- One step of the congruential sequence that expands a seed. -/
def advanceSeed (state : UInt64) : UInt64 :=
  state * 6364136223846793005 + 11634580027462260723

/-- The output of the congruential sequence: folded high bits, rotated by the top five. -/
def seedWord (state : UInt64) : UInt32 :=
  let folded := ((state >>> 18 ^^^ state) >>> 27).toUInt32
  let count := (state >>> 59).toUInt32
  folded >>> count ||| folded <<< (32 - count)

/-- The key of a seed: eight outputs of the sequence that starts at the seed. -/
def keyOfSeed (seed : UInt64) : Vector UInt32 8 :=
  Vector.ofFn fun index => seedWord (Nat.repeat advanceSeed (index.val + 1) seed)

end Random

/-- A position in the stream of random words of a key. -/
structure Generator where
  /-- The key that determines the stream. -/
  key : Vector UInt32 8
  /-- Number of words already taken. -/
  position : Nat
deriving DecidableEq, Repr

namespace Generator

/-- The generator at the start of the stream of a seed. -/
def ofSeed (seed : UInt64) : Generator := ⟨Random.keyOfSeed seed, 0⟩

/-- The next random byte. -/
def byte (generator : Generator) : UInt8 := (Random.word generator.key generator.position).toUInt8

/-- The generator after a word has been taken. -/
def advance (generator : Generator) : Generator :=
  { generator with position := generator.position + 1 }

end Generator
end Chip8
