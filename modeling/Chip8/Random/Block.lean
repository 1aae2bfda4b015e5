import Chip8.Opcode

/-!
# Keyed blocks of random words

A block of sixteen words is computed from a key of eight words and a block number by twelve rounds
of quarter-round mixing over a four by four matrix, alternately down its columns and along its
diagonals, and a final addition of the starting matrix.
-/

namespace Chip8
namespace Random

/-- A four by four matrix of words, row by row. -/
abbrev Matrix := Vector UInt32 16

/-- Rotate a word left. -/
def rotateLeft (word count : UInt32) : UInt32 := word <<< count ||| word >>> (32 - count)

/-- Mix four entries of the matrix. -/
def quarterRound (a b c d : Fin 16) (m : Matrix) : Matrix :=
  let m := m.set a (m[a] + m[b])
  let m := m.set d (rotateLeft (m[d] ^^^ m[a]) 16)
  let m := m.set c (m[c] + m[d])
  let m := m.set b (rotateLeft (m[b] ^^^ m[c]) 12)
  let m := m.set a (m[a] + m[b])
  let m := m.set d (rotateLeft (m[d] ^^^ m[a]) 8)
  let m := m.set c (m[c] + m[d])
  m.set b (rotateLeft (m[b] ^^^ m[c]) 7)

/-- Mix every column, then every diagonal. -/
def doubleRound (m : Matrix) : Matrix :=
  let m := quarterRound 0 4 8 12 m
  let m := quarterRound 1 5 9 13 m
  let m := quarterRound 2 6 10 14 m
  let m := quarterRound 3 7 11 15 m
  let m := quarterRound 0 5 10 15 m
  let m := quarterRound 1 6 11 12 m
  let m := quarterRound 2 7 8 13 m
  quarterRound 3 4 9 14 m

/-- The starting matrix: four constants, the key, the block number and an empty nonce. -/
def start (key : Vector UInt32 8) (number : Nat) : Matrix :=
  #v[0x61707865, 0x3320646e, 0x79622d32, 0x6b206574,
    key[0], key[1], key[2], key[3], key[4], key[5], key[6], key[7],
    UInt32.ofNat number, UInt32.ofNat (number / UInt32.size), 0, 0]

/-- The block of sixteen words of the given number. -/
def block (key : Vector UInt32 8) (number : Nat) : Matrix :=
  let initial := start key number
  let mixed := Nat.repeat doubleRound 6 initial
  mixed.zipWith (· + ·) initial

end Random
end Chip8
