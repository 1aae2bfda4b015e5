import Chip8.Proofs.Frame
import Chip8.Proofs.History

/-!
# Bounds of the machine state

Addresses stay within twelve bits and the stack within its sixteen slots, through every history.
The bounds are kept although instructions are words read from memory that programs may rewrite:
decoding cuts every address operand to twelve bits, and every other address is cut where it is
computed.
-/

namespace Chip8

namespace Instruction

/-- The address operand of an instruction, if it has one, lies in memory. -/
def Addressed : Instruction → Prop
  | system address | jump address | call address | setIndex address | jumpOffset address =>
      address.toNat ≤ 4095
  | _ => True

end Instruction

namespace Opcode

theorem toNat_nnn_le (op : Opcode) : op.nnn.toNat ≤ 4095 := by
  rw [toNat_nnn]
  omega

theorem addressed_decodeSystem (op : Opcode) : op.decodeSystem.Addressed := by
  rw [decodeSystem]
  split
  · trivial
  · split
    · trivial
    · exact op.toNat_nnn_le

theorem addressed_decodeArithmetic (op : Opcode) : op.decodeArithmetic.Addressed := by
  rw [decodeArithmetic]
  split <;> trivial

theorem addressed_decodeKeyboard (op : Opcode) : op.decodeKeyboard.Addressed := by
  rw [decodeKeyboard]
  split <;> trivial

theorem addressed_decodeTransfer (op : Opcode) : op.decodeTransfer.Addressed := by
  rw [decodeTransfer]
  split <;> trivial

theorem addressed_decode (op : Opcode) : op.decode.Addressed := by
  rw [decode]
  split
  · exact op.addressed_decodeSystem
  · exact op.toNat_nnn_le
  · exact op.toNat_nnn_le
  · trivial
  · trivial
  · trivial
  · trivial
  · trivial
  · exact op.addressed_decodeArithmetic
  · trivial
  · exact op.toNat_nnn_le
  · exact op.toNat_nnn_le
  · trivial
  · trivial
  · exact op.addressed_decodeKeyboard
  · exact op.addressed_decodeTransfer

end Opcode

namespace Processor

/-- The control state points into memory and into the stack. -/
structure Bounded (processor : Processor) : Prop where
  /-- The program counter lies in memory. -/
  pc : processor.pc.toNat ≤ 0xFFF
  /-- The index register lies in memory. -/
  index : processor.index.toNat ≤ 0xFFF
  /-- There are at most as many return addresses as slots. -/
  sp : processor.sp ≤ 16
  /-- Every slot, in use or not, holds an address in memory. -/
  stack : ∀ slot : Fin 16, processor.stack[slot].toNat ≤ 0xFFF

theorem bounded_start (memory : Memory) (keypad : Keypad) : (start memory keypad).Bounded where
  pc := by simp [start]
  index := by simp [start]
  sp := by simp [start]
  stack := by simp [start]

private theorem toNat_mod_le (address : UInt16) : (address % 4096).toNat ≤ 0xFFF := by
  simp only [UInt16.toNat_mod, UInt16.reduceToNat]
  omega

namespace Bounded

variable {processor : Processor}

theorem execute (bounded : processor.Bounded) (random : Generator) {instruction : Instruction}
    (addressed : instruction.Addressed) :
    (processor.execute random instruction).processor.Bounded := by
  have law := processor.executed_execute random instruction
  constructor
  · rw [law.pc]
    exact bounded.pc
  · rw [law.index]
    cases instruction with
    | setIndex address => exact addressed
    | addIndex x => exact toNat_mod_le _
    | pointGlyph x => exact toNat_mod_le _
    | _ => exact bounded.index
  · have depth := bounded.sp
    rw [law.sp]
    cases instruction with
    | ret => exact Nat.le_trans (Nat.sub_le _ _) depth
    | call address =>
        simp only
        split <;> omega
    | _ => exact depth
  · intro slot
    rw [law.stack]
    cases instruction with
    | call address =>
        simp only [Fin.getElem_fin, Vector.getElem_setIfInBounds]
        split
        · exact toNat_mod_le _
        · exact bounded.stack slot
    | _ => exact bounded.stack slot

theorem target (bounded : processor.Bounded) (random : Generator) {instruction : Instruction}
    (addressed : instruction.Addressed) :
    ((processor.execute random instruction).directive.target processor.pc).toNat ≤ 0xFFF := by
  have skips (condition : Bool) :
      ((Directive.skipWhen condition).target processor.pc).toNat ≤ 0xFFF := by
    cases condition <;> exact toNat_mod_le _
  cases instruction with
  | ret =>
      rw [directive_ret]
      split
      · exact bounded.pc
      · exact toNat_mod_le _
  | call address =>
      rw [directive_call]
      split
      · exact bounded.pc
      · exact addressed
  | jump address => exact addressed
  | awaitKey x =>
      simp only [Processor.execute, executeFixed]
      split
      · exact toNat_mod_le _
      · exact bounded.pc
  | skipIfByte | skipUnlessByte | skipIfEqual | skipUnlessEqual | skipIfPressed
  | skipUnlessPressed => exact skips _
  | _ => exact toNat_mod_le _

end Bounded
end Processor

namespace Machine

/-- The processor is within its bounds and the retained program fits in memory. -/
structure Bounded (machine : Machine) : Prop where
  /-- The control state points into memory and into the stack. -/
  processor : machine.processor.Bounded
  /-- The program can be loaded again as it is. -/
  program : machine.program.size ≤ programCapacity

theorem bounded_create (interval : Nat) (seed : UInt64) (now : Int) :
    (create interval seed now).Bounded where
  processor := Processor.bounded_start _ _
  program := by simp [create]

theorem bounded_load (machine : Machine) (bytes : Array UInt8) (now : Int) :
    (machine.load bytes now).Bounded where
  processor := Processor.bounded_start _ _
  program := by
    simp only [load, Array.take_eq_extract, Array.size_extract]
    omega

namespace Bounded

variable {machine : Machine}

/-- Only the control state and the retained program matter. -/
theorem of_eq {other : Machine} (bounded : machine.Bounded)
    (pc : other.processor.pc = machine.processor.pc)
    (index : other.processor.index = machine.processor.index)
    (sp : other.processor.sp = machine.processor.sp)
    (stack : other.processor.stack = machine.processor.stack)
    (program : other.program = machine.program) : other.Bounded := by
  obtain ⟨⟨pc_le, index_le, sp_le, stack_le⟩, program_le⟩ := bounded
  constructor
  · constructor
    · rwa [pc]
    · rwa [index]
    · rwa [sp]
    · rwa [stack]
  · rwa [program]

theorem cycle (bounded : machine.Bounded) : machine.cycle.1.Bounded := by
  have addressed := machine.processor.opcode.addressed_decode
  have executed := bounded.processor.execute machine.random addressed
  have onward := bounded.processor.target machine.random addressed
  refine ⟨⟨?_, executed.index, executed.sp, executed.stack⟩, bounded.program⟩
  rw [processor_cycle]
  simpa only [effect, instruction, (machine.processor.executed_execute _ _).pc] using onward

theorem tick (bounded : machine.Bounded) (now : Int) : (machine.tick now).1.Bounded := by
  rw [Machine.tick]
  split
  · exact bounded.of_eq rfl rfl rfl rfl rfl
  · exact bounded

/-- Other contents of memory do not matter. -/
theorem withMemory (bounded : machine.Bounded) (font : Font) (memory : Memory) :
    Bounded { machine with font, processor.memory := memory } :=
  bounded.of_eq rfl rfl rfl rfl rfl

end Bounded

theorem stable_bounded : Stable Bounded where
  reload machine now _ := machine.bounded_load machine.program now
  font _ font bounded := bounded.withMemory font _
  keypad _ _ bounded := bounded.of_eq rfl rfl rfl rfl rfl
  register _ _ _ bounded := bounded.of_eq rfl rfl rfl rfl rfl
  pixel _ _ _ _ bounded := bounded.of_eq rfl rfl rfl rfl rfl
  tick _ now bounded := bounded.tick now
  cycle _ bounded := bounded.cycle
  clocks _ _ bounded := bounded.of_eq rfl rfl rfl rfl rfl
  shown _ _ _ bounded := bounded.of_eq rfl rfl rfl rfl rfl
  silenced _ bounded := bounded.of_eq rfl rfl rfl rfl rfl

/-- Every history of a new machine keeps it within its bounds. -/
theorem bounded_performAll (interval : Nat) (seed : UInt64) (now : Int)
    (history : List Operation) : ((create interval seed now).performAll history).Bounded :=
  stable_bounded.performAll _ history
    (fun _ _ _ machine bytes now _ => machine.bounded_load bytes now)
    (bounded_create interval seed now)

end Machine
end Chip8
