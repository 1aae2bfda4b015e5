import Chip8.Execute

/-!
# Guarded execution

A second account of the instructions, in which nothing is total by convention.  Every access to an
array checks its index, every sum, difference and product of a fixed width checks its result, and
the two groups of instructions that share a handler refuse what is not theirs.  Addresses are cut
by masks and loops go cell by cell.  The account answers a trap where one of the checks fails.
-/

namespace Chip8

/-- Why a guarded operation has no answer. -/
inductive Trap where
  /-- An index beyond the end of its array. -/
  | outOfRange
  /-- A result that does not fit its width. -/
  | overflow
  /-- An instruction handed to a group that it does not belong to. -/
  | unreachable
deriving DecidableEq, Repr

/-- The answer of an operation that checks itself. -/
abbrev Guarded := Except Trap

namespace Guarded

/-- Read a cell of an array. -/
def get {α : Type} {size : Nat} (cells : Vector α size) (index : Nat) : Guarded α :=
  if inRange : index < size then .ok cells[index] else .error .outOfRange

/-- Replace a cell of an array. -/
def set {α : Type} {size : Nat} (cells : Vector α size) (index : Nat) (value : α) :
    Guarded (Vector α size) :=
  if inRange : index < size then .ok (cells.set index value) else .error .outOfRange

/-- A number that has to lie below a size. -/
def fit (size value : Nat) : Guarded Nat :=
  if value < size then .ok value else .error .overflow

/-- The sum of numbers of sixteen bits. -/
def add16 (left right : Nat) : Guarded Nat := fit 0x10000 (left + right)

/-- The product of numbers of sixteen bits. -/
def mul16 (left right : Nat) : Guarded Nat := fit 0x10000 (left * right)

/-- The sum of numbers of sixty-four bits. -/
def add64 (left right : Nat) : Guarded Nat := fit 0x10000000000000000 (left + right)

/-- The product of numbers of sixty-four bits. -/
def mul64 (left right : Nat) : Guarded Nat := fit 0x10000000000000000 (left * right)

/-- The difference of unsigned numbers. -/
def sub (left right : Nat) : Guarded Nat :=
  if right ≤ left then .ok (left - right) else .error .overflow

/-- The difference of signed numbers of sixteen bits. -/
def subSigned (left right : Int) : Guarded Int :=
  if -32768 ≤ left - right ∧ left - right ≤ 32767 then .ok (left - right) else .error .overflow

/-- The magnitude of a signed number of sixteen bits. -/
def magnitude (value : Int) : Guarded Int :=
  if value.natAbs ≤ 32767 then .ok value.natAbs else .error .overflow

end Guarded

namespace Memory

/-- Read the cell of an address cut to twelve bits. -/
def guardedRead (memory : Memory) (address : Nat) : Guarded UInt8 :=
  Guarded.get memory.cells (address &&& addressMask)

/-- Write the cell of an address cut to twelve bits. -/
def guardedWrite (memory : Memory) (address : Nat) (byte : UInt8) : Guarded Memory := do
  let cells ← Guarded.set memory.cells (address &&& addressMask) byte
  return ⟨cells⟩

end Memory

namespace Processor

/-- Read a register by its number. -/
def guardedRegister (processor : Processor) (x : Nat) : Guarded UInt8 :=
  Guarded.get processor.registers x

/-- Write a register by its number. -/
def guardedSetRegister (processor : Processor) (x : Nat) (value : UInt8) : Guarded Processor := do
  let registers ← Guarded.set processor.registers x value
  return { processor with registers }

/-- Fetch the word at the program counter. -/
def guardedOpcode (processor : Processor) : Guarded Opcode := do
  let address := processor.pc.toNat
  let high ← processor.memory.guardedRead address
  let low ← processor.memory.guardedRead (← Guarded.add64 address 1)
  return .ofBytes high low

/-! ### Subroutines -/

/-- Return to the address on top of the stack. -/
def guardedReturn (processor : Processor) : Guarded (Processor × Directive) :=
  if processor.sp = 0 then return ({ processor with fault := some .stackUnderflow }, .stall)
  else do
    let sp ← Guarded.sub processor.sp 1
    let address ← Guarded.get processor.stack sp
    return ({ processor with sp }, .jump (address &&& 0xFFF))

/-- Push the address of the next instruction and jump. -/
def guardedCall (processor : Processor) (address : UInt16) : Guarded (Processor × Directive) :=
  if 16 ≤ processor.sp then return ({ processor with fault := some .stackOverflow }, .stall)
  else do
    let stack ← Guarded.set processor.stack processor.sp ((processor.pc + 2) &&& 0xFFF)
    let sp ← Guarded.add64 processor.sp 1
    return ({ processor with stack, sp }, .jump address)

/-! ### Arithmetic -/

/-- A difference and its flag, taken between signed numbers. -/
def guardedDifference (minuend subtrahend : UInt8) : Guarded (UInt8 × UInt8) := do
  let result ← Guarded.subSigned minuend.toNat subtrahend.toNat
  if 0 < result then return (1, UInt8.ofInt result)
  else
    let borrowed ← Guarded.subSigned 255 (← Guarded.magnitude result)
    return (0, UInt8.ofInt borrowed)

/-- Write the flag register, then a register. -/
def guardedSetFlagged (processor : Processor) (flag : UInt8) (x : Nat) (value : UInt8) :
    Guarded (Processor × Directive) := do
  let flagged ← processor.guardedSetRegister 15 flag
  return (← flagged.guardedSetRegister x value, .next)

/-- The handler of the arithmetic between registers. -/
def guardedArithmetic (processor : Processor) : Instruction → Guarded (Processor × Directive)
  | .copy x y => do
      return (← processor.guardedSetRegister x (← processor.guardedRegister y), .next)
  | .or x y => do
      let value := (← processor.guardedRegister x) ||| (← processor.guardedRegister y)
      return (← processor.guardedSetRegister x value, .next)
  | .and x y => do
      let value := (← processor.guardedRegister x) &&& (← processor.guardedRegister y)
      return (← processor.guardedSetRegister x value, .next)
  | .xor x y => do
      let value := (← processor.guardedRegister x) ^^^ (← processor.guardedRegister y)
      return (← processor.guardedSetRegister x value, .next)
  | .add x y => do
      let left ← processor.guardedRegister x
      let sum ← Guarded.add16 left.toNat (← processor.guardedRegister y).toNat
      processor.guardedSetFlagged (if 255 < sum then 1 else 0) x (UInt8.ofNat (sum &&& 0xFF))
  | .subtract x y => do
      let left ← processor.guardedRegister x
      let (flag, value) ← guardedDifference left (← processor.guardedRegister y)
      processor.guardedSetFlagged flag x value
  | .shiftRight x => do
      let bit := (← processor.guardedRegister x) &&& 1
      let flagged ← processor.guardedSetRegister 15 bit
      return (← flagged.guardedSetRegister x ((← flagged.guardedRegister x) >>> 1), .next)
  | .subtractFrom x y => do
      let left ← processor.guardedRegister y
      let (flag, value) ← guardedDifference left (← processor.guardedRegister x)
      processor.guardedSetFlagged flag x value
  | .shiftLeft x => do
      let value ← processor.guardedRegister x
      processor.guardedSetFlagged ((value >>> 7) &&& 1) x (value <<< 1)
  | _ => throw .unreachable

/-! ### Sprites -/

/-- Toggle the pixel under one column of a sprite row, if the row has it. -/
def guardedPixel (row : UInt8) (column line : Nat) (drawn : Display × Bool) (offset : Nat) :
    Guarded (Display × Bool) := do
  let shift ← Guarded.sub 7 offset
  if (row.toNat >>> shift) &&& 1 = 0 then return drawn
  else
    let across := (← Guarded.add64 column offset) &&& 63
    let down ← Guarded.mul64 (line &&& 31) 64
    let place ← Guarded.add64 across down
    let wasOn ← Guarded.get drawn.1.pixels place
    let pixels ← Guarded.set drawn.1.pixels place (wasOn ^^ true)
    return (⟨pixels⟩, drawn.2 || wasOn)

/-- Toggle the pixels of one row of the sprite at the index register. -/
def guardedRow (processor : Processor) (column line : Nat) (drawn : Display × Bool)
    (index : Nat) : Guarded (Display × Bool) := do
  let row ← processor.memory.guardedRead (← Guarded.add64 processor.index.toNat index)
  let line ← Guarded.add64 line index
  (List.range 8).foldlM (guardedPixel row column line) drawn

/-- Draw a sprite of some rows at column `Vx` and row `Vy`. -/
def guardedDraw (processor : Processor) (x y rows : Nat) : Guarded (Processor × Directive) := do
  let column ← processor.guardedRegister x
  let line ← processor.guardedRegister y
  let (display, collided) ←
    (List.range rows).foldlM (processor.guardedRow column.toNat line.toNat)
      (processor.display, false)
  let flagged ← processor.guardedSetRegister 15 (if collided then 1 else 0)
  return ({ flagged with display, repaint := true }, .next)

/-! ### Keys, timers and memory -/

/-- Store registers from the index register on, one after the other. -/
def guardedStore (processor : Processor) (count : Nat) : Guarded Memory :=
  (List.range count).foldlM (fun memory j => do
    let value ← processor.guardedRegister j
    memory.guardedWrite (← Guarded.add64 processor.index.toNat j) value) processor.memory

/-- Load registers from the index register on, one after the other. -/
def guardedLoad (processor : Processor) (count : Nat) : Guarded (Vector UInt8 16) :=
  (List.range count).foldlM (fun registers j => do
    let value ← processor.memory.guardedRead (← Guarded.add64 processor.index.toNat j)
    Guarded.set registers j value) processor.registers

/-- The handler of keys, timers and memory. -/
def guardedTransfer (processor : Processor) : Instruction → Guarded (Processor × Directive)
  | .skipIfPressed x => do
      return (processor, .skipWhen (processor.keypad.isDown (← processor.guardedRegister x)))
  | .skipUnlessPressed x => do
      return (processor, .skipWhen (!processor.keypad.isDown (← processor.guardedRegister x)))
  | .readDelay x => do
      return (← processor.guardedSetRegister x processor.delayTimer, .next)
  | .awaitKey x =>
      match processor.keypad.lowest? with
      | some key => do return (← processor.guardedSetRegister x key.toByte, .next)
      | none => return (processor, .stall)
  | .setDelay x => do
      return ({ processor with delayTimer := ← processor.guardedRegister x }, .next)
  | .setSound x => do
      return ({ processor with soundTimer := ← processor.guardedRegister x }, .next)
  | .addIndex x => do
      let value ← processor.guardedRegister x
      let sum ← Guarded.add16 processor.index.toNat value.toNat
      let flagged ← processor.guardedSetRegister 15 (if 4095 < sum then 1 else 0)
      return ({ flagged with index := UInt16.ofNat (sum &&& 0xFFF) }, .next)
  | .pointGlyph x => do
      let offset ← Guarded.mul16 (← processor.guardedRegister x).toNat Font.height
      let address ← Guarded.add16 Font.start offset
      return ({ processor with index := UInt16.ofNat (address &&& 0xFFF) }, .next)
  | .storeDecimal x => do
      let address := processor.index.toNat
      let value ← processor.guardedRegister x
      let memory ← processor.memory.guardedWrite address (value / 100)
      let memory ← memory.guardedWrite (← Guarded.add64 address 1) (value / 10 % 10)
      let memory ← memory.guardedWrite (← Guarded.add64 address 2) (value % 10)
      return ({ processor with memory }, .next)
  | .storeRegisters x => do
      return ({ processor with memory := ← processor.guardedStore (x.val + 1) }, .next)
  | .loadRegisters x => do
      return ({ processor with registers := ← processor.guardedLoad (x.val + 1) }, .next)
  | _ => throw .unreachable

/-! ### All instructions -/

/-- Skip on a condition between two registers. -/
def guardedCompare (processor : Processor) (x y : Nat) (condition : UInt8 → UInt8 → Bool) :
    Guarded (Processor × Directive) := do
  let left ← processor.guardedRegister x
  return (processor, .skipWhen (condition left (← processor.guardedRegister y)))

/-- Execute an instruction other than a random draw. -/
def guardedFixed (processor : Processor) (instruction : Instruction) :
    Guarded (Processor × Directive) :=
  match instruction with
  | .system _ => return (processor, .next)
  | .clear => return (processor.blankDisplay, .next)
  | .ret => processor.guardedReturn
  | .jump address => return (processor, .jump address)
  | .call address => processor.guardedCall address
  | .skipIfByte x byte => do
      return (processor, .skipWhen ((← processor.guardedRegister x) == byte))
  | .skipUnlessByte x byte => do
      return (processor, .skipWhen ((← processor.guardedRegister x) != byte))
  | .skipIfEqual x y => processor.guardedCompare x y (· == ·)
  | .skipUnlessEqual x y => processor.guardedCompare x y (· != ·)
  | .setByte x byte => do return (← processor.guardedSetRegister x byte, .next)
  | .addByte x byte => do
      let sum := (← processor.guardedRegister x) + byte
      return (← processor.guardedSetRegister x sum, .next)
  | .copy .. | .or .. | .and .. | .xor .. | .add .. | .subtract .. | .shiftRight ..
  | .subtractFrom .. | .shiftLeft .. => processor.guardedArithmetic instruction
  | .setIndex address => return ({ processor with index := address }, .next)
  | .jumpOffset address => do
      let sum ← Guarded.add16 address.toNat (← processor.guardedRegister 0).toNat
      return (processor, .jump (UInt16.ofNat (sum &&& 0xFFF)))
  | .draw x y rows => processor.guardedDraw x y rows
  | .skipIfPressed .. | .skipUnlessPressed .. | .readDelay .. | .awaitKey .. | .setDelay ..
  | .setSound .. | .addIndex .. | .pointGlyph .. | .storeDecimal .. | .storeRegisters ..
  | .loadRegisters .. => processor.guardedTransfer instruction
  | .unknown _ => return (processor, .passOver)
  | .random .. => throw .unreachable

/-- Execute an instruction. -/
def guardedExecute (processor : Processor) (random : Generator) :
    Instruction → Guarded Effect
  | .random x mask => do
      let drawn ← processor.guardedSetRegister x (mask &&& random.byte)
      return ⟨drawn, random.advance, .next⟩
  | instruction => do
      let (after, directive) ← processor.guardedFixed instruction
      return ⟨after, random, directive⟩

end Processor
end Chip8
