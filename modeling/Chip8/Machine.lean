import Chip8.Clock
import Chip8.Execute
import Chip8.Log

/-!
# The machine

A processor with its clocks, its random number generator, its font and the program it was loaded
with.  Every operation that depends on time is given the time at which it happens.  What an
operation reports is a function of the machine before it, beside the operation itself.
-/

namespace Chip8

/-- The whole machine. -/
structure Machine where
  processor : Processor
  /-- Throttles the run loop. -/
  clock : Clock
  /-- Drives the delay and sound timers. -/
  timer : Clock
  /-- The random number generator, which outlives every program. -/
  random : Generator
  /-- The glyphs that every load puts into memory. -/
  font : Font
  /-- The program loaded last, for reloading. -/
  program : Array UInt8
  /-- Words that were no instructions since the last load. -/
  unknownCount : Nat
deriving DecidableEq, Repr

/-- How a machine is made. -/
structure MachineSettings where
  /-- Instructions a second, as fast as possible if not given. -/
  clockFrequency : Option UInt64 := none
  /-- Seed of the random number generator, taken from the wall clock if not given. -/
  seed : Option UInt64 := none
deriving DecidableEq, Repr, Inhabited

namespace MachineSettings

/-- Nanoseconds between instructions. -/
def interval (settings : MachineSettings) : Nat :=
  intervalOfFrequency (settings.clockFrequency.getD 0).toNat

/-- The seed, given the wall clock in milliseconds since 1970.  A wall clock before that year
seeds with zero. -/
def seedAt (settings : MachineSettings) (wallClock : Int) : UInt64 :=
  settings.seed.getD (UInt64.ofNat wallClock.toNat)

end MachineSettings

namespace Machine

/-- Bytes of the longest program that fits in memory. -/
def programCapacity : Nat := 3584

/-! ### Making and loading -/

/-- A new machine without a program. -/
def create (interval : Nat) (seed : UInt64) (now : Int) : Machine where
  processor := .start (.image .standard #[]) .empty
  clock := ⟨now, interval⟩
  timer := .timer now
  random := .ofSeed seed
  font := .standard
  program := #[]
  unknownCount := 0

/-- Start both clocks afresh. -/
def resetClocks (machine : Machine) (now : Int) : Machine :=
  { machine with clock := machine.clock.reset now, timer := machine.timer.reset now }

/-- Load a program into a clean processor.  The keys, the font and the generator stay as they
are, and a program that does not fit is cut. -/
def load (machine : Machine) (bytes : Array UInt8) (now : Int) : Machine :=
  let program := bytes.take programCapacity
  { machine.resetClocks now with
    processor := .start (.image machine.font program) machine.processor.keypad
    program
    unknownCount := 0 }

/-- The records of loading a program. -/
def loadRecords (bytes : Array UInt8) : List LogRecord :=
  if programCapacity < bytes.size then
    [.truncating bytes.size programCapacity, .loaded programCapacity]
  else [.loaded bytes.size]

/-- Load the program of the last load once more. -/
def reload (machine : Machine) (now : Int) : Machine := machine.load machine.program now

/-- The records of a reload. -/
def reloadRecords (machine : Machine) : List LogRecord := loadRecords machine.program

/-- Use other glyphs from now on.  There have to be exactly eighty bytes of them. -/
def loadFont (machine : Machine) (bytes : Array UInt8) : Except Failure Machine :=
  if sized : bytes.size = 80 then
    let font : Font := ⟨bytes, sized⟩
    .ok { machine with font, processor.memory := machine.processor.memory.withFont font }
  else
    .error (.font ("fontset data must be 80 bytes, got " ++ toString bytes.size))

/-! ### Changes from outside -/

/-- Replace the state of the keys. -/
def withKeypad (machine : Machine) (keypad : Keypad) : Machine :=
  { machine with processor.keypad := keypad }

/-- Press or release a key. -/
def changeKey (machine : Machine) (key : Key) (pressed : Bool) : Machine :=
  machine.withKeypad (machine.processor.keypad.set key.toByte pressed)

/-- Release all keys. -/
def releaseKeys (machine : Machine) : Machine := machine.withKeypad .empty

/-- Write a register, numbered through its low four bits. -/
def pokeRegister (machine : Machine) (number : Nat) (value : UInt8) : Machine :=
  { machine with processor := machine.processor.setRegister (Fin.ofNat 16 number) value }

theorem register_pokeRegister (machine : Machine) (number : Nat) (value : UInt8)
    (other : Register) :
    (machine.pokeRegister number value).processor.register other =
      if other = Fin.ofNat 16 number then value else machine.processor.register other :=
  Processor.register_setRegister _ _ _ _

/-- Switch a pixel on or off. -/
def pokePixel (machine : Machine) (column row : Nat) (isOn : Bool) : Machine :=
  { machine with
    processor.display := machine.processor.display.set (Display.pixelAt column row) isOn
    processor.repaint := true }

/-! ### Execution -/

/-- Count the timers down if a tick is due.  Answers whether one was. -/
def tick (machine : Machine) (now : Int) : Machine × Bool :=
  if machine.timer.due now then
    ({ machine with
        processor := machine.processor.countDown
        timer := machine.timer.reset now },
      true)
  else (machine, false)

/-- Execute the instruction at the program counter and move the program counter. -/
def cycle (machine : Machine) : Machine × Directive :=
  let effect := machine.processor.execute machine.random machine.processor.opcode.decode
  let unknownCount :=
    if effect.directive = .passOver then machine.unknownCount + 1 else machine.unknownCount
  ({ machine with
      processor := { effect.processor with pc := effect.directive.target effect.processor.pc }
      random := effect.random
      unknownCount },
    effect.directive)

/-- The records of executing the instruction at the program counter. -/
def cycleRecords (machine : Machine) : List LogRecord :=
  let pc := machine.processor.pc
  let op := machine.processor.opcode
  .executing pc op ::
    match op.decode with
    | .system address => [.ignoringRoutine pc address]
    | .unknown _ => [.unknownOpcode pc op]
    | _ => []

/-- Count the timers down if a tick is due, then execute one instruction.  A machine that has
stopped stays as it is. -/
def step (machine : Machine) (now : Int) : Machine × Except Fault Directive :=
  match machine.processor.fault with
  | some fault => (machine, .error fault)
  | none =>
      let (machine, directive) := (machine.tick now).1.cycle
      match machine.processor.fault with
      | some fault => (machine, .error fault)
      | none => (machine, .ok directive)

/-- The records of a step. -/
def stepRecords (machine : Machine) (now : Int) : List LogRecord :=
  match machine.processor.fault with
  | some _ => []
  | none =>
      let after := (machine.step now).1
      machine.cycleRecords ++
        match after.processor.fault with
        | some fault => [.faulted after.processor.pc fault]
        | none => []

/-- Make a number of steps at one time, up to the first fault.  Answers the directive of the last
step, which is `directive` when there is none to make. -/
def stepsFrom (machine : Machine) (now : Int) (directive : Directive) :
    Nat → Machine × Except Fault Directive
  | 0 => (machine, .ok directive)
  | count + 1 =>
      match machine.step now with
      | (machine, .ok directive) => machine.stepsFrom now directive count
      | (machine, .error fault) => (machine, .error fault)

/-- Make a number of steps at one time, up to the first fault. -/
def steps (machine : Machine) (now : Int) (count : Nat) : Machine × Except Fault Directive :=
  machine.stepsFrom now .next count

/-- The records of a number of steps. -/
def stepsRecords (machine : Machine) (now : Int) : Nat → List LogRecord
  | 0 => []
  | count + 1 =>
      machine.stepRecords now ++
        match machine.step now with
        | (machine, .ok _) => machine.stepsRecords now count
        | (_, .error _) => []

end Machine
end Chip8
