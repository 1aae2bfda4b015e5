/-!
# Instruction words

A program is a sequence of sixteen-bit words, stored big-endian.  A word is read through its
four-bit fields, its low byte and its low twelve bits.
-/

namespace Chip8

/-- There are numbers below sixteen, so that numerals for registers, fields and keys wrap round. -/
instance sixteen_neZero : @NeZero Nat Zero.ofOfNat0 16 := Nat.instNeZeroSucc

/-- One of the sixteen general purpose registers `V0` to `VF`. -/
abbrev Register := Fin 16

/-- Register `VF`, which receives carries, borrows, shifted-out bits and collisions. -/
def flagRegister : Register := 15

/-- A sixteen-bit instruction word. -/
structure Opcode where
  word : UInt16
deriving DecidableEq, Repr, Inhabited

namespace Opcode

/-- The word whose high byte comes first in memory. -/
def ofBytes (high low : UInt8) : Opcode :=
  ⟨high.toUInt16 * 256 + low.toUInt16⟩

/-- First field, which selects the family of the instruction. -/
def family (op : Opcode) : Fin 16 := Fin.ofNat 16 (op.word.toNat / 4096)

/-- Second field, usually the register operand `x`. -/
def x (op : Opcode) : Register := Fin.ofNat 16 (op.word.toNat / 256)

/-- Third field, usually the register operand `y`. -/
def y (op : Opcode) : Register := Fin.ofNat 16 (op.word.toNat / 16)

/-- Last field. -/
def n (op : Opcode) : Fin 16 := Fin.ofNat 16 op.word.toNat

/-- Low byte. -/
def kk (op : Opcode) : UInt8 := op.word.toUInt8

/-- Low twelve bits, an address. -/
def nnn (op : Opcode) : UInt16 := op.word % 4096

theorem toNat_word_ofBytes (high low : UInt8) :
    (ofBytes high low).word.toNat = high.toNat * 256 + low.toNat := by
  have high_lt := high.toNat_lt
  have low_lt := low.toNat_lt
  simp [ofBytes]
  omega

theorem toNat_kk (op : Opcode) : op.kk.toNat = op.word.toNat % 256 := by
  simp [kk]

theorem toNat_nnn (op : Opcode) : op.nnn.toNat = op.word.toNat % 4096 := by
  simp [nnn]

end Opcode
end Chip8
