import Chip8.Hex
import Chip8.Instruction

/-!
# Mnemonics

The assembly form of an instruction: an operation name and a list of operands.  Registers are
written `V0` to `VF`, bytes and addresses in hexadecimal with a leading `0x`, and the row count of
a sprite in decimal.
-/

namespace Chip8

/-- An operand as it stands in assembly text. -/
inductive Operand where
  | register (number : Register)
  /-- A byte constant, two hexadecimal digits. -/
  | byte (value : UInt8)
  /-- An address, three hexadecimal digits. -/
  | address (value : UInt16)
  /-- A whole word, four hexadecimal digits. -/
  | word (value : UInt16)
  /-- A small count in decimal. -/
  | count (value : Fin 16)
  /-- The index register `I`. -/
  | index
  /-- The memory that `I` points at. -/
  | indirect
  | delay
  | sound
  /-- The next key press. -/
  | key
  /-- The glyph of a digit. -/
  | glyph
  /-- The decimal digits of a value. -/
  | decimal
deriving DecidableEq, Repr

namespace Operand

/-- The characters of an operand. -/
def chars : Operand → List Char
  | register number => 'V' :: Hex.digits 1 number.val
  | byte value => '0' :: 'x' :: Hex.digits 2 value.toNat
  | address value => '0' :: 'x' :: Hex.digits 3 value.toNat
  | word value => '0' :: 'x' :: Hex.digits 4 value.toNat
  | count value => if value.val < 10 then [Hex.digit value.val]
      else ['1', Hex.digit (value.val - 10)]
  | index => ['I']
  | indirect => ['[', 'I', ']']
  | delay => ['D', 'T']
  | sound => ['S', 'T']
  | key => ['K']
  | glyph => ['F']
  | decimal => ['B']

end Operand

/-- An operation name with its operands. -/
structure Mnemonic where
  name : String
  operands : List Operand
deriving DecidableEq, Repr

namespace Mnemonic

/-- Operands separated by a comma and a blank. -/
def operandChars : List Operand → List Char
  | [] => []
  | [operand] => operand.chars
  | operand :: rest => operand.chars ++ ',' :: ' ' :: operandChars rest

/-- Assembly text: the name, and after a blank the operands if there are any. -/
def chars (mnemonic : Mnemonic) : List Char :=
  match mnemonic.operands with
  | [] => mnemonic.name.toList
  | operands => mnemonic.name.toList ++ ' ' :: operandChars operands

end Mnemonic

namespace Instruction

/-- The assembly form of an instruction. -/
def mnemonic : Instruction → Mnemonic
  | system address => ⟨"SYS", [.address address]⟩
  | clear => ⟨"CLS", []⟩
  | ret => ⟨"RET", []⟩
  | jump address => ⟨"JP", [.address address]⟩
  | call address => ⟨"CALL", [.address address]⟩
  | skipIfByte x byte => ⟨"SE", [.register x, .byte byte]⟩
  | skipUnlessByte x byte => ⟨"SNE", [.register x, .byte byte]⟩
  | skipIfEqual x y => ⟨"SE", [.register x, .register y]⟩
  | setByte x byte => ⟨"LD", [.register x, .byte byte]⟩
  | addByte x byte => ⟨"ADD", [.register x, .byte byte]⟩
  | copy x y => ⟨"LD", [.register x, .register y]⟩
  | or x y => ⟨"OR", [.register x, .register y]⟩
  | and x y => ⟨"AND", [.register x, .register y]⟩
  | xor x y => ⟨"XOR", [.register x, .register y]⟩
  | add x y => ⟨"ADD", [.register x, .register y]⟩
  | subtract x y => ⟨"SUB", [.register x, .register y]⟩
  | shiftRight x => ⟨"SHR", [.register x]⟩
  | subtractFrom x y => ⟨"SUBN", [.register x, .register y]⟩
  | shiftLeft x => ⟨"SHL", [.register x]⟩
  | skipUnlessEqual x y => ⟨"SNE", [.register x, .register y]⟩
  | setIndex address => ⟨"LD", [.index, .address address]⟩
  | jumpOffset address => ⟨"JP", [.register 0, .address address]⟩
  | random x mask => ⟨"RND", [.register x, .byte mask]⟩
  | draw x y rows => ⟨"DRW", [.register x, .register y, .count rows]⟩
  | skipIfPressed x => ⟨"SKP", [.register x]⟩
  | skipUnlessPressed x => ⟨"SKNP", [.register x]⟩
  | readDelay x => ⟨"LD", [.register x, .delay]⟩
  | awaitKey x => ⟨"LD", [.register x, .key]⟩
  | setDelay x => ⟨"LD", [.delay, .register x]⟩
  | setSound x => ⟨"LD", [.sound, .register x]⟩
  | addIndex x => ⟨"ADD", [.index, .register x]⟩
  | pointGlyph x => ⟨"LD", [.glyph, .register x]⟩
  | storeDecimal x => ⟨"LD", [.decimal, .register x]⟩
  | storeRegisters x => ⟨"LD", [.indirect, .register x]⟩
  | loadRegisters x => ⟨"LD", [.register x, .indirect]⟩
  | unknown word => ⟨"UNKNOWN", [.word word]⟩

/-- The assembly text of an instruction. -/
def text (instruction : Instruction) : String := String.ofList instruction.mnemonic.chars

end Instruction
end Chip8
