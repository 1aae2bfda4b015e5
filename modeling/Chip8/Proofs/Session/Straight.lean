import Chip8.Proofs.Session

/-!
# Straight programs

Most instructions go on to the word behind them and leave memory and the stack alone.  As long as
no other comes up, a session executes the words of its program one after the other.
-/

namespace Chip8

/-- Whether an instruction always goes on to the word behind it, in the same memory. -/
def Instruction.isStraight : Instruction → Bool
  | .ret | .jump _ | .call _ | .jumpOffset _ | .awaitKey _ | .unknown _ => false
  | .skipIfByte _ _ | .skipUnlessByte _ _ | .skipIfEqual _ _ | .skipUnlessEqual _ _ => false
  | .skipIfPressed _ | .skipUnlessPressed _ => false
  | .storeDecimal _ | .storeRegisters _ => false
  | _ => true

/-- One processor comes from another by going on to the next word. -/
structure Processor.GoesOn (before after : Processor) : Prop where
  pc : after.pc = (before.pc + 2) % 4096
  sp : after.sp = before.sp
  memory : after.memory = before.memory

namespace Processor

variable {instruction : Instruction}

theorem raised?_of_straight (processor : Processor) (random : Generator)
    (straight : instruction.isStraight = true) :
    processor.raised? instruction = none ∧
      (processor.execute random instruction).processor.sp = processor.sp := by
  rw [(processor.executed_execute random instruction).sp]
  cases instruction with
  | ret | call => exact absurd straight Bool.false_ne_true
  | _ => exact ⟨rfl, rfl⟩

/-- A straight instruction only leads on, and leaves memory alone. -/
theorem execute_of_straight (processor : Processor) (random : Generator)
    (straight : instruction.isStraight = true) :
    (processor.execute random instruction).directive = .next ∧
      (processor.execute random instruction).processor.memory = processor.memory := by
  cases instruction with
  | ret | jump | call | jumpOffset | awaitKey | unknown =>
      exact absurd straight Bool.false_ne_true
  | skipIfByte | skipUnlessByte | skipIfEqual | skipUnlessEqual =>
      exact absurd straight Bool.false_ne_true
  | skipIfPressed | skipUnlessPressed => exact absurd straight Bool.false_ne_true
  | storeDecimal | storeRegisters => exact absurd straight Bool.false_ne_true
  | loadRegisters x =>
      unfold execute executeFixed loadRegisters
      exact ⟨rfl, rfl⟩
  | _ => exact ⟨rfl, rfl⟩

end Processor

namespace Machine

variable {machine : Machine}

theorem goesOn_cycle (straight : machine.instruction.isStraight = true) :
    machine.raised? = none ∧ machine.cycle.2 = .next ∧
      machine.processor.GoesOn machine.cycle.1.processor := by
  obtain ⟨quiet, sp⟩ := machine.processor.raised?_of_straight machine.random straight
  obtain ⟨directive, memory⟩ := machine.processor.execute_of_straight machine.random straight
  have pc := (machine.processor.executed_execute machine.random machine.instruction).pc
  refine ⟨quiet, directive, ?_, sp, memory⟩
  have target : machine.cycle.1.processor.pc =
      machine.effect.directive.target machine.effect.processor.pc := rfl
  rw [target, effect, directive, pc]
  rfl

/-- A straight step ticks, executes its instruction and goes on to the next word. -/
theorem step_of_straight (now : Int) (going : machine.processor.fault = none)
    (straight : machine.instruction.isStraight = true) :
    machine.step now = ((machine.tick now).1.cycle.1, .ok .next) ∧
      machine.processor.GoesOn (machine.step now).1.processor := by
  have ticked := straight
  rw [← machine.instruction_tick now] at ticked
  obtain ⟨-, directive, pc, sp, memory⟩ := goesOn_cycle ticked
  have step := step_of_not_raised now going (goesOn_cycle straight).1
  rw [directive] at step
  refine ⟨step, ?_⟩
  rw [step]
  rcases machine.processor_tick now with still | counted
  · rw [still] at pc sp memory
    exact ⟨pc, sp, memory⟩
  · rw [counted] at pc sp memory
    exact ⟨pc, sp, memory⟩

end Machine

namespace Session
namespace Plan

/-- The instruction in a word of the program. -/
def word (plan : Plan) (number : Nat) : Instruction :=
  (Opcode.ofBytes (plan.image.data[2 * number]?.getD 0)
    (plan.image.data[2 * number + 1]?.getD 0)).decode

variable {plan : Plan} {cycle : Nat}

theorem Continues.exists_machine {directive : Directive}
    (continues : plan.Continues cycle directive) :
    ∃ keypad clock, plan.machine (cycle + 1) =
      { (plan.stepped cycle).presented.withKeypad keypad with clock } := by
  have next : plan.machine (cycle + 1) =
      (plan.after (cycle + 1)).machine.withKeypad (plan.machine (cycle + 1)).processor.keypad := rfl
  rw [next, continues.next]
  exact ⟨_, _, rfl⟩

/-- A session comes to the word of its program that has the number of the cycle, with nothing on
its stack. -/
structure Reads (plan : Plan) (cycle : Nat) : Prop where
  going : (plan.after cycle).result = none
  fault : (plan.machine cycle).processor.fault = none
  memory : (plan.machine cycle).processor.memory = (plan.machine 0).processor.memory
  sp : (plan.machine cycle).processor.sp = 0
  pc : (plan.machine cycle).processor.pc.toNat = 0x200 + 2 * cycle

theorem reads_zero (plan : Plan) : plan.Reads 0 := ⟨rfl, rfl, rfl, rfl, rfl⟩

theorem Reads.instruction (reads : plan.Reads cycle) (inMemory : 2 * cycle + 1 < 3584) :
    (plan.machine cycle).instruction = plan.word cycle := by
  have read (offset : Nat) (inMemory : offset < 3584) :
      (plan.machine 0).processor.memory.read (0x200 + offset) =
        plan.image.data[offset]?.getD 0 :=
    Machine.read_load_getD _ _ 0 inMemory
  rw [Machine.instruction, Processor.opcode, reads.memory, reads.pc, Nat.add_assoc,
    read (2 * cycle) (by omega), read (2 * cycle + 1) inMemory]
  rfl

theorem Reads.step (reads : plan.Reads cycle) (inMemory : 2 * cycle + 1 < 3584)
    (straight : (plan.word cycle).isStraight = true) :
    plan.outcome cycle = .ok .next ∧
      plan.stepped cycle = ((plan.machine cycle).tick (plan.ready cycle).now).1.cycle.1 ∧
      (plan.machine cycle).processor.GoesOn (plan.stepped cycle).processor := by
  rw [← reads.instruction inMemory] at straight
  obtain ⟨step, goesOn⟩ := Machine.step_of_straight (plan.ready cycle).now reads.fault straight
  exact ⟨congrArg Prod.snd step, congrArg Prod.fst step, goesOn⟩

/-- What a straight step leaves, when its instruction draws no random number: the timers may have
been counted down before it. -/
theorem Reads.exists_processor (reads : plan.Reads cycle) (inMemory : 2 * cycle + 1 < 3584)
    (straight : (plan.word cycle).isStraight = true)
    (fixed : ∀ x mask, plan.word cycle ≠ .random x mask) :
    ∃ before pc,
      (before = (plan.machine cycle).processor ∨
        before = (plan.machine cycle).processor.countDown) ∧
      (plan.stepped cycle).processor =
        { (before.executeFixed (plan.word cycle)).1 with pc } := by
  obtain ⟨-, stepped, -⟩ := reads.step inMemory straight
  let ticked := ((plan.machine cycle).tick (plan.ready cycle).now).1
  have word : ticked.instruction = plan.word cycle :=
    (Machine.instruction_tick _ _).trans (reads.instruction inMemory)
  refine ⟨ticked.processor, (plan.stepped cycle).processor.pc, Machine.processor_tick _ _, ?_⟩
  rw [stepped, Machine.processor_cycle, Machine.effect, word]
  cases instruction : plan.word cycle with
  | random x mask => exact absurd instruction (fixed x mask)
  | _ => rfl

/-- A return that comes up fails, since nothing has been called. -/
theorem Reads.outcome_of_ret (reads : plan.Reads cycle) (inMemory : 2 * cycle + 1 < 3584)
    (returns : plan.word cycle = .ret) : plan.outcome cycle = .error .stackUnderflow := by
  rw [← reads.instruction inMemory] at returns
  have raises : (plan.machine cycle).raised? = some .stackUnderflow := by
    rw [Machine.raised?, returns]
    exact if_pos reads.sp
  exact (Machine.step_eq_error_iff _ reads.fault _).mpr raises

section Limited

variable {maxCycles : Nat} (limited : plan.settings.maxCycles = some maxCycles)
include limited

theorem Reads.continues (reads : plan.Reads cycle) (inMemory : 2 * cycle + 1 < 3584)
    (straight : (plan.word cycle).isStraight = true) (within : cycle < maxCycles) :
    plan.Continues cycle .next := by
  have outcome := (reads.step inMemory straight).1
  rcases iteration_of_lt limited within reads.going with ⟨fault, stops⟩ | ⟨directive, continues⟩
  · rw [stops.outcome] at outcome
    exact nomatch outcome
  · rw [continues.outcome] at outcome
    obtain rfl := Except.ok.inj outcome
    exact continues

theorem Reads.next (reads : plan.Reads cycle) (inMemory : 2 * (cycle + 1) + 1 < 3584)
    (straight : (plan.word cycle).isStraight = true) (within : cycle < maxCycles) :
    plan.Reads (cycle + 1) := by
  obtain ⟨outcome, -, pc, sp, memory⟩ := reads.step (by omega) straight
  have continues := reads.continues limited (by omega) straight within
  obtain ⟨keypad, clock, machine_eq⟩ := continues.exists_machine
  refine ⟨continues.going reads.going, ?_, ?_, ?_, ?_⟩ <;> rw [machine_eq]
  · exact Machine.fault_step_of_ok outcome
  · exact memory.trans reads.memory
  · exact sp.trans reads.sp
  · refine (congrArg UInt16.toNat pc).trans ?_
    have place := reads.pc
    simp only [UInt16.toNat_mod, UInt16.toNat_add, UInt16.reduceToNat, place]
    omega

/-- A session that has met nothing but straight words has come to the next. -/
theorem reads_of_straight (within : cycle ≤ maxCycles) (inMemory : 2 * cycle + 1 < 3584)
    (straight : ∀ earlier < cycle, (plan.word earlier).isStraight = true) :
    plan.Reads cycle := by
  induction cycle with
  | zero => exact plan.reads_zero
  | succ cycle induction =>
      have reads := induction (by omega) (by omega) fun earlier before =>
        straight earlier (by omega)
      exact reads.next limited inMemory (straight cycle (by omega)) (by omega)

end Limited

end Plan
end Session
end Chip8
