import Chip8.Instruction
import Chip8.Processor
import Chip8.Random.Generator

/-!
# Executing instructions

What each instruction does to the processor.  An instruction never moves the program counter
itself: it answers a directive, which is applied afterwards.  Where an instruction writes both a
result and the flag register, the flag is written first, so that a result destined for the flag
register takes its place.
-/

namespace Chip8

/-- Where execution goes after an instruction. -/
inductive Directive where
  /-- On to the next instruction. -/
  | next
  /-- Over the next instruction. -/
  | skip
  /-- To an address. -/
  | jump (address : UInt16)
  /-- Nowhere: the same instruction comes up again. -/
  | stall
  /-- On to the next instruction, past a word that is no instruction. -/
  | passOver
deriving DecidableEq, Repr, Inhabited

namespace Directive

/-- Skip on a condition. -/
def skipWhen (condition : Bool) : Directive := if condition then skip else next

/-- The program counter that a directive leads to. -/
def target (directive : Directive) (pc : UInt16) : UInt16 :=
  match directive with
  | next => (pc + 2) % 4096
  | skip => (pc + 4) % 4096
  | jump address => address
  | stall => pc
  | passOver => (pc + 2) % 4096

end Directive

/-- What an instruction leaves behind. -/
structure Effect where
  /-- The processor, with its program counter as it was. -/
  processor : Processor
  random : Generator
  directive : Directive
deriving DecidableEq, Repr

namespace Processor

/-! ### Subroutines -/

/-- Return to the address on top of the stack. -/
def returnFromCall (processor : Processor) : Processor × Directive :=
  if processor.sp = 0 then ({ processor with fault := some .stackUnderflow }, .stall)
  else
    let address := processor.stack[processor.sp - 1]?.getD 0
    ({ processor with sp := processor.sp - 1 }, .jump (address % 4096))

/-- Push the address of the next instruction and jump. -/
def callSubroutine (processor : Processor) (address : UInt16) : Processor × Directive :=
  if 16 ≤ processor.sp then ({ processor with fault := some .stackOverflow }, .stall)
  else
    let stack := processor.stack.setIfInBounds processor.sp ((processor.pc + 2) % 4096)
    ({ processor with stack, sp := processor.sp + 1 }, .jump address)

/-! ### Arithmetic -/

/-- Write the flag register, then a register. -/
def setFlagged (processor : Processor) (flag : UInt8) (x : Register) (value : UInt8) :
    Processor :=
  (processor.setRegister flagRegister flag).setRegister x value

/-- Add `Vy` to `Vx`, with the carry in the flag. -/
def addRegisters (processor : Processor) (x y : Register) : Processor :=
  let sum := (processor.register x).toUInt16 + (processor.register y).toUInt16
  processor.setFlagged (if 255 < sum then 1 else 0) x sum.toUInt8

/-- A difference and its flag.  The flag is set only when the difference is positive; a difference
of zero counts as a borrow, and `-d` leaves `255 - d`. -/
def difference (minuend subtrahend : UInt8) : UInt8 × UInt8 :=
  if subtrahend < minuend then (1, minuend - subtrahend)
  else (0, 255 - (subtrahend - minuend))

/-- Set `Vx` to a difference, with the flag of the difference. -/
def setDifference (processor : Processor) (x : Register) (minuend subtrahend : UInt8) :
    Processor :=
  let (flag, value) := difference minuend subtrahend
  processor.setFlagged flag x value

/-- Move the lowest bit of `Vx` to the flag, then shift `Vx` right. -/
def shiftRight (processor : Processor) (x : Register) : Processor :=
  let flagged := processor.setRegister flagRegister (processor.register x &&& 1)
  flagged.setRegister x (flagged.register x >>> 1)

/-- Shift `Vx` left, with the highest bit in the flag. -/
def shiftLeft (processor : Processor) (x : Register) : Processor :=
  processor.setFlagged (processor.register x >>> 7) x (processor.register x <<< 1)

/-! ### The index register and memory -/

/-- Add `Vx` to the index register.  The flag tells whether the sum left the address space. -/
def addIndex (processor : Processor) (x : Register) : Processor :=
  let sum := processor.index + (processor.register x).toUInt16
  { processor.setRegister flagRegister (if 4095 < sum then 1 else 0) with index := sum % 4096 }

/-- Draw a sprite of some rows at column `Vx` and row `Vy`, with the collision in the flag. -/
def drawSprite (processor : Processor) (x y : Register) (rows : Nat) : Processor :=
  let sprite : Sprite := ⟨processor.index.toNat, rows⟩
  let pixels := sprite.pixels processor.memory
    (processor.register x).toNat (processor.register y).toNat
  let (display, collided) := processor.display.toggleAll pixels
  { processor.setRegister flagRegister (if collided then 1 else 0) with
    display, repaint := true }

/-- Store bytes from the index register on. -/
def store (processor : Processor) (bytes : List UInt8) : Processor :=
  { processor with memory := processor.memory.writeAll processor.index.toNat bytes }

/-- Store the hundreds, tens and ones of `Vx` at the index register. -/
def storeDecimal (processor : Processor) (x : Register) : Processor :=
  let value := processor.register x
  processor.store [value / 100, value / 10 % 10, value % 10]

/-- Store the registers up to `Vx` at the index register. -/
def storeRegisters (processor : Processor) (x : Register) : Processor :=
  processor.store (processor.registers.toList.take (x.val + 1))

/-- Load the registers up to `Vx` from the index register. -/
def loadRegisters (processor : Processor) (x : Register) : Processor :=
  { processor with
    registers := Vector.ofFn fun j =>
      if j.val ≤ x.val then processor.memory.read (processor.index.toNat + j.val)
      else processor.register j }

/-! ### All instructions -/

/-- Execute an instruction other than a random draw. -/
def executeFixed (processor : Processor) : Instruction → Processor × Directive
  | .system _ => (processor, .next)
  | .clear => (processor.blankDisplay, .next)
  | .ret => processor.returnFromCall
  | .jump address => (processor, .jump address)
  | .call address => processor.callSubroutine address
  | .skipIfByte x byte => (processor, .skipWhen (processor.register x == byte))
  | .skipUnlessByte x byte => (processor, .skipWhen (processor.register x != byte))
  | .skipIfEqual x y => (processor, .skipWhen (processor.register x == processor.register y))
  | .setByte x byte => (processor.setRegister x byte, .next)
  | .addByte x byte => (processor.setRegister x (processor.register x + byte), .next)
  | .copy x y => (processor.setRegister x (processor.register y), .next)
  | .or x y => (processor.setRegister x (processor.register x ||| processor.register y), .next)
  | .and x y => (processor.setRegister x (processor.register x &&& processor.register y), .next)
  | .xor x y => (processor.setRegister x (processor.register x ^^^ processor.register y), .next)
  | .add x y => (processor.addRegisters x y, .next)
  | .subtract x y =>
      (processor.setDifference x (processor.register x) (processor.register y), .next)
  | .shiftRight x => (processor.shiftRight x, .next)
  | .subtractFrom x y =>
      (processor.setDifference x (processor.register y) (processor.register x), .next)
  | .shiftLeft x => (processor.shiftLeft x, .next)
  | .skipUnlessEqual x y => (processor, .skipWhen (processor.register x != processor.register y))
  | .setIndex address => ({ processor with index := address }, .next)
  | .jumpOffset address =>
      (processor, .jump ((address + (processor.register 0).toUInt16) % 4096))
  | .random _ _ => (processor, .next)
  | .draw x y rows => (processor.drawSprite x y rows.val, .next)
  | .skipIfPressed x => (processor, .skipWhen (processor.keypad.isDown (processor.register x)))
  | .skipUnlessPressed x =>
      (processor, .skipWhen (!processor.keypad.isDown (processor.register x)))
  | .readDelay x => (processor.setRegister x processor.delayTimer, .next)
  | .awaitKey x =>
      match processor.keypad.lowest? with
      | some key => (processor.setRegister x key.toByte, .next)
      | none => (processor, .stall)
  | .setDelay x => ({ processor with delayTimer := processor.register x }, .next)
  | .setSound x => ({ processor with soundTimer := processor.register x }, .next)
  | .addIndex x => (processor.addIndex x, .next)
  | .pointGlyph x =>
      ({ processor with index := (processor.register x).toUInt16 * 5 % 4096 }, .next)
  | .storeDecimal x => (processor.storeDecimal x, .next)
  | .storeRegisters x => (processor.storeRegisters x, .next)
  | .loadRegisters x => (processor.loadRegisters x, .next)
  | .unknown _ => (processor, .passOver)

/-- Execute an instruction.  Only a random draw takes a word from the generator. -/
def execute (processor : Processor) (random : Generator) : Instruction → Effect
  | .random x mask =>
      ⟨processor.setRegister x (mask &&& random.byte), random.advance, .next⟩
  | instruction =>
      let (after, directive) := processor.executeFixed instruction
      ⟨after, random, directive⟩

end Processor
end Chip8
