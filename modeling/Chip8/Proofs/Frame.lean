import Chip8.Machine
import Chip8.Proofs.Encoding

/-!
# What instructions do to the control state

The program counter, the index register, the stack, the fault and the state of the devices are
changed by few instructions.  One law says for all of them what they are after any instruction.

The timers and what is still to be presented form the periphery.  Instructions write to it, but
only one of them reads it: it loads the delay timer into a register.
-/

namespace Chip8

/-- The part of a processor that faces the clock and the devices. -/
structure Periphery where
  delayTimer : UInt8
  soundTimer : UInt8
  buzzing : Bool
  repaint : Bool

/-- The periphery after an instruction of a processor. -/
def Periphery.after (periphery : Periphery) (processor : Processor) : Instruction → Periphery
  | .setDelay x => { periphery with delayTimer := processor.register x }
  | .setSound x => { periphery with soundTimer := processor.register x }
  | .clear | .draw _ _ _ => { periphery with repaint := true }
  | _ => periphery

namespace Processor

/-- The control state after an instruction. -/
structure Executed (before : Processor) (instruction : Instruction) (after : Processor) :
    Prop where
  /-- No instruction moves the program counter itself. -/
  pc : after.pc = before.pc
  /-- Three instructions set the index register. -/
  index : after.index =
    match instruction with
    | .setIndex address => address
    | .addIndex x => (before.index + (before.register x).toUInt16) % 4096
    | .pointGlyph x => (before.register x).toUInt16 * 5 % 4096
    | _ => before.index
  /-- A call goes one level deeper and a return one level up. -/
  sp : after.sp =
    match instruction with
    | .ret => before.sp - 1
    | .call _ => if 16 ≤ before.sp then before.sp else before.sp + 1
    | _ => before.sp
  /-- Only a call writes to the stack, and only to the slot at the stack pointer. -/
  stack : after.stack =
    match instruction with
    | .call _ => before.stack.setIfInBounds before.sp ((before.pc + 2) % 4096)
    | _ => before.stack
  /-- A call on a full stack and a return on an empty one are the two faults. -/
  fault : after.fault =
    match instruction with
    | .ret => if before.sp = 0 then some .stackUnderflow else before.fault
    | .call _ => if 16 ≤ before.sp then some .stackOverflow else before.fault
    | _ => before.fault
  /-- No instruction changes the keys. -/
  keypad : after.keypad = before.keypad
  /-- No instruction switches the buzzer. -/
  buzzing : after.buzzing = before.buzzing

/-- Loading registers changes no control state, whichever values they get. -/
theorem executed_loadRegisters (processor : Processor) (x : Register)
    (registers : Vector UInt8 16) :
    processor.Executed (.loadRegisters x) { processor with registers } := by
  constructor <;> rfl

/-- Every instruction leaves the control state that the law gives. -/
theorem executed_execute (processor : Processor) (random : Generator)
    (instruction : Instruction) :
    processor.Executed instruction (processor.execute random instruction).processor := by
  cases instruction with
  | ret =>
      simp only [execute, executeFixed, returnFromCall]
      by_cases bottom : processor.sp = 0
      · simp only [if_pos bottom]
        constructor <;> simp [bottom]
      · simp only [if_neg bottom]
        constructor <;> simp [bottom]
  | call address =>
      simp only [execute, executeFixed, callSubroutine]
      by_cases full : 16 ≤ processor.sp
      · simp only [if_pos full]
        constructor <;> simp [full, Vector.setIfInBounds_eq_of_size_le full]
      · simp only [if_neg full]
        constructor <;> simp [full]
  | loadRegisters x => exact processor.executed_loadRegisters x _
  | awaitKey x =>
      simp only [execute, executeFixed]
      cases processor.keypad.lowest? with
      | none => constructor <;> rfl
      | some key => constructor <;> rfl
  | _ => constructor <;> rfl

/-! ### The periphery -/

def periphery (processor : Processor) : Periphery :=
  ⟨processor.delayTimer, processor.soundTimer, processor.buzzing, processor.repaint⟩

/-- The processor with another periphery. -/
def withPeriphery (processor : Processor) (periphery : Periphery) : Processor :=
  { processor with
    delayTimer := periphery.delayTimer
    soundTimer := periphery.soundTimer
    buzzing := periphery.buzzing
    repaint := periphery.repaint }

/-- The periphery makes no difference to an instruction, unless it reads the delay timer. -/
theorem execute_withPeriphery (processor : Processor) (periphery : Periphery)
    (random : Generator) {instruction : Instruction}
    (delay : ∀ x, instruction = .readDelay x → periphery.delayTimer = processor.delayTimer) :
    (processor.withPeriphery periphery).execute random instruction =
      let effect := processor.execute random instruction
      { effect with
        processor := effect.processor.withPeriphery (periphery.after processor instruction) } := by
  cases instruction with
  | ret =>
      unfold withPeriphery
      simp only [execute, executeFixed, returnFromCall]
      split <;> rfl
  | call address =>
      unfold withPeriphery
      simp only [execute, executeFixed, callSubroutine]
      split <;> rfl
  | readDelay x =>
      obtain ⟨delayTimer, soundTimer, buzzing, repaint⟩ := periphery
      obtain rfl : delayTimer = processor.delayTimer := delay x rfl
      rfl
  | awaitKey x =>
      simp only [execute, executeFixed, withPeriphery]
      cases processor.keypad.lowest? <;> rfl
  | _ => rfl

theorem periphery_execute (processor : Processor) (random : Generator)
    (instruction : Instruction) :
    (processor.execute random instruction).processor.periphery =
      processor.periphery.after processor instruction := by
  -- A processor is itself with its own periphery.
  have law : processor.execute random instruction = _ :=
    processor.execute_withPeriphery processor.periphery random fun _ _ => rfl
  exact congrArg (fun effect => effect.processor.periphery) law

/-! ### Calls and returns -/

theorem directive_ret (processor : Processor) (random : Generator) :
    (processor.execute random .ret).directive =
      if processor.sp = 0 then .stall
      else .jump (processor.stack[processor.sp - 1]?.getD 0 % 4096) := by
  simp only [execute, executeFixed, returnFromCall]
  split <;> rfl

theorem directive_call (processor : Processor) (random : Generator) (address : UInt16) :
    (processor.execute random (.call address)).directive =
      if 16 ≤ processor.sp then .stall else .jump address := by
  simp only [execute, executeFixed, callSubroutine]
  split <;> rfl

/-- A return, whether it succeeds or not, touches nothing but the stack pointer and the fault. -/
theorem exists_execute_ret (processor : Processor) (random : Generator) :
    ∃ sp fault, (processor.execute random .ret).processor = { processor with sp, fault } := by
  simp only [execute, executeFixed, returnFromCall]
  split
  · exact ⟨_, _, rfl⟩
  · exact ⟨_, _, rfl⟩

theorem exists_execute_call (processor : Processor) (random : Generator) (address : UInt16) :
    ∃ sp stack fault, (processor.execute random (.call address)).processor =
      { processor with sp, stack, fault } := by
  simp only [execute, executeFixed, callSubroutine]
  split
  · exact ⟨_, _, _, rfl⟩
  · exact ⟨_, _, _, rfl⟩

end Processor

namespace Machine

/-- The instruction at the program counter. -/
def instruction (machine : Machine) : Instruction := machine.processor.opcode.decode

/-- What the instruction at the program counter leaves behind. -/
def effect (machine : Machine) : Effect :=
  machine.processor.execute machine.random machine.instruction

theorem processor_cycle (machine : Machine) :
    machine.cycle.1.processor =
      { machine.effect.processor with
        pc := machine.effect.directive.target machine.effect.processor.pc } := rfl

theorem processor_cycle_of_denotes {machine : Machine} {instruction : Instruction}
    (denotes : machine.processor.opcode.Denotes instruction) :
    machine.cycle.1.processor =
      let effect := machine.processor.execute machine.random instruction
      { effect.processor with pc := effect.directive.target effect.processor.pc } := by
  rw [processor_cycle, effect, Machine.instruction, Opcode.decode_eq_iff.mpr denotes]

/-- The machine with another periphery. -/
def withPeriphery (machine : Machine) (periphery : Periphery) : Machine :=
  { machine with processor := machine.processor.withPeriphery periphery }

theorem cycle_withPeriphery (machine : Machine) (periphery : Periphery)
    (delay : ∀ x, machine.instruction = .readDelay x →
      periphery.delayTimer = machine.processor.delayTimer) :
    (machine.withPeriphery periphery).cycle =
      (machine.cycle.1.withPeriphery (periphery.after machine.processor machine.instruction),
        machine.cycle.2) := by
  have law := machine.processor.execute_withPeriphery periphery machine.random delay
  have fetched : (machine.processor.withPeriphery periphery).opcode = machine.processor.opcode :=
    rfl
  rw [instruction] at law
  simp only [cycle, withPeriphery, fetched, law]
  rfl

theorem periphery_cycle (machine : Machine) :
    machine.cycle.1.processor.periphery =
      machine.processor.periphery.after machine.processor machine.instruction :=
  machine.processor.periphery_execute machine.random machine.instruction

theorem processor_tick (machine : Machine) (now : Int) :
    (machine.tick now).1.processor = machine.processor ∨
      (machine.tick now).1.processor = machine.processor.countDown := by
  rw [tick]
  split
  · exact .inr rfl
  · exact .inl rfl

/-- Counting the timers down does not change the instruction that comes up. -/
theorem instruction_tick (machine : Machine) (now : Int) :
    (machine.tick now).1.instruction = machine.instruction := by
  rw [tick]
  split <;> rfl

end Machine
end Chip8
