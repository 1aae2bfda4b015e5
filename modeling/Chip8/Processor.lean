import Chip8.Display
import Chip8.Failure
import Chip8.Keypad
import Chip8.Opcode

/-!
# The processor

The registers, stack, timers, memory and display of the machine.
-/

namespace Chip8

/-- The state that instructions work on. -/
structure Processor where
  /-- Address of the current instruction. -/
  pc : UInt16
  /-- Number of return addresses on the stack. -/
  sp : Nat
  /-- General purpose registers. -/
  registers : Vector UInt8 16
  /-- The index register `I`, an address. -/
  index : UInt16
  /-- The delay timer, counting down to zero. -/
  delayTimer : UInt8
  /-- The sound timer, counting down to zero.  The buzzer sounds while it is not zero. -/
  soundTimer : UInt8
  /-- Whether the buzzer was last switched on. -/
  buzzing : Bool
  /-- State of the keys. -/
  keypad : Keypad
  /-- Main memory. -/
  memory : Memory
  /-- Return addresses.  Slots at and above `sp` hold what was left there. -/
  stack : Vector UInt16 16
  /-- The picture. -/
  display : Display
  /-- Whether the picture has been written since it was last presented. -/
  repaint : Bool
  /-- Why the processor has stopped, if it has. -/
  fault : Option Fault
deriving DecidableEq, Repr, Inhabited

namespace Processor

/-- A processor about to start on the given memory. -/
def start (memory : Memory) (keypad : Keypad) : Processor where
  pc := 512
  sp := 0
  registers := Vector.replicate 16 0
  index := 0
  delayTimer := 0
  soundTimer := 0
  buzzing := false
  keypad := keypad
  memory := memory
  stack := Vector.replicate 16 0
  display := .blank
  repaint := true
  fault := none

/-- Contents of a register. -/
def register (processor : Processor) (x : Register) : UInt8 := processor.registers[x]

/-- Replace the contents of a register. -/
def setRegister (processor : Processor) (x : Register) (value : UInt8) : Processor :=
  { processor with registers := processor.registers.set x value }

theorem register_setRegister (processor : Processor) (x other : Register) (value : UInt8) :
    (processor.setRegister x value).register other =
      if other = x then value else processor.register other := by
  by_cases same : other = x
  · simp [register, setRegister, same]
  · have apart : ¬ x.val = other.val := fun equal => same (Fin.ext equal.symm)
    simp [register, setRegister, same, apart]

/-- The word at the program counter. -/
def opcode (processor : Processor) : Opcode :=
  let address := processor.pc.toNat
  .ofBytes (processor.memory.read address) (processor.memory.read (address + 1))

/-- Count both timers down, stopping at zero. -/
def countDown (processor : Processor) : Processor :=
  { processor with
    delayTimer := if processor.delayTimer = 0 then 0 else processor.delayTimer - 1
    soundTimer := if processor.soundTimer = 0 then 0 else processor.soundTimer - 1 }

/-- Switch off the whole display. -/
def blankDisplay (processor : Processor) : Processor :=
  { processor with display := .blank, repaint := true }

end Processor
end Chip8
