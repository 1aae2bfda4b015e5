import Chip8.Proofs.Fault

/-!
# The call stack

The stack is an array with a pointer, and what was left above the pointer stays there.  A call
writes the slot at the pointer, a return reads the slot below it, and nothing else between loads
touches either.  So everything at and below the slot of a call is out of reach until the pointer
comes back to where it was, and only the return that belongs to the call brings it back.
-/

namespace Chip8
namespace Processor

/-- A return address is pushed. -/
structure Pushes (before : Processor) (address : UInt16) (after : Processor) : Prop where
  /-- There is a free slot. -/
  room : before.sp < 16
  /-- One more slot is in use. -/
  sp : after.sp = before.sp + 1
  /-- The slot holds the address of the next instruction. -/
  stack : after.stack = before.stack.set before.sp ((before.pc + 2) % 4096)
  /-- Execution goes to the address of the call. -/
  pc : after.pc = address

/-- A return address is popped. -/
structure Pops (before after : Processor) : Prop where
  /-- One slot less is in use. -/
  sp : before.sp = after.sp + 1
  /-- The slots are as they were. -/
  stack : after.stack = before.stack
  /-- Execution goes to the address in the slot. -/
  pc : after.pc = before.stack[after.sp]?.getD 0 % 4096

/-- The stack is left alone. -/
structure Keeps (before after : Processor) : Prop where
  /-- As many slots are in use. -/
  sp : after.sp = before.sp
  /-- The slots are as they were. -/
  stack : after.stack = before.stack

theorem keeps_refl (processor : Processor) : processor.Keeps processor := ⟨rfl, rfl⟩

/-- What an instruction does to the stack.  A call or a return that raises a fault leaves it alone,
like every other instruction. -/
def StackLaw (before : Processor) (instruction : Instruction) (after : Processor) : Prop :=
  (∃ address, instruction = .call address ∧ before.raised? instruction = none ∧
    before.Pushes address after) ∨
  (instruction = .ret ∧ before.raised? instruction = none ∧ before.Pops after) ∨
  ((∀ address, instruction = .call address → before.raised? instruction ≠ none) ∧
    (instruction = .ret → before.raised? instruction ≠ none) ∧ before.Keeps after)

/-- The processor that an effect and its directive lead to, as far as the stack is concerned. -/
structure LeadsTo (effect : Effect) (after : Processor) : Prop where
  /-- As many slots are in use as the effect leaves. -/
  sp : after.sp = effect.processor.sp
  /-- The slots are as the effect leaves them. -/
  stack : after.stack = effect.processor.stack
  /-- Execution goes where the directive says. -/
  pc : after.pc = effect.directive.target effect.processor.pc

section Instructions

variable {processor after : Processor} {random : Generator} {instruction : Instruction}

theorem pushes_of_leadsTo {address : UInt16} (word : instruction = .call address)
    (room : processor.sp < 16) (leads : LeadsTo (processor.execute random instruction) after) :
    processor.Pushes address after := by
  subst word
  have law := processor.executed_execute random (.call address)
  have free : ¬16 ≤ processor.sp := Nat.not_le_of_lt room
  refine ⟨room, ?_, ?_, ?_⟩
  · exact leads.sp.trans (law.sp.trans (if_neg free))
  · refine leads.stack.trans (law.stack.trans ?_)
    simp [Vector.setIfInBounds, Vector.set, Array.setIfInBounds, room]
  · rw [leads.pc, directive_call, if_neg free]
    rfl

theorem stackLaw_call {address : UInt16}
    (leads : LeadsTo (processor.execute random (.call address)) after) :
    processor.StackLaw (.call address) after := by
  by_cases full : 16 ≤ processor.sp
  · right; right
    have law := processor.executed_execute random (.call address)
    have raises : processor.raised? (.call address) = some .stackOverflow := if_pos full
    refine ⟨fun _ _ => by simp [raises], nofun, ?_, ?_⟩
    · exact leads.sp.trans (law.sp.trans (if_pos full))
    · exact leads.stack.trans (law.stack.trans (Vector.setIfInBounds_eq_of_size_le full))
  · left
    exact ⟨address, rfl, if_neg full, pushes_of_leadsTo rfl (Nat.lt_of_not_le full) leads⟩

theorem stackLaw_ret (leads : LeadsTo (processor.execute random .ret) after) :
    processor.StackLaw .ret after := by
  have law := processor.executed_execute random .ret
  have sp_eq : after.sp = processor.sp - 1 := leads.sp.trans law.sp
  have stack_eq : after.stack = processor.stack := leads.stack.trans law.stack
  by_cases bottom : processor.sp = 0
  · right; right
    have raises : processor.raised? .ret = some .stackUnderflow := if_pos bottom
    exact ⟨nofun, fun _ => by simp [raises], by omega, stack_eq⟩
  · right; left
    refine ⟨rfl, if_neg bottom, by omega, stack_eq, ?_⟩
    rw [leads.pc, directive_ret, if_neg bottom, sp_eq]
    rfl

/-- A call or a return that raises no fault pushes or pops, and nothing else touches the stack. -/
theorem stackLaw_of_leadsTo (leads : LeadsTo (processor.execute random instruction) after) :
    processor.StackLaw instruction after := by
  have law := processor.executed_execute random instruction
  cases instruction with
  | call address => exact stackLaw_call leads
  | ret => exact stackLaw_ret leads
  | _ => exact .inr (.inr ⟨nofun, nofun, leads.sp.trans law.sp, leads.stack.trans law.stack⟩)

end Instructions

theorem Pushes.of_countDown {processor after : Processor} {address : UInt16}
    (pushes : processor.countDown.Pushes address after) : processor.Pushes address after :=
  ⟨pushes.room, pushes.sp, pushes.stack, pushes.pc⟩

theorem StackLaw.of_countDown {processor after : Processor} {instruction : Instruction}
    (law : processor.countDown.StackLaw instruction after) :
    processor.StackLaw instruction after := by
  have same : processor.countDown.raised? instruction = processor.raised? instruction := rfl
  rw [StackLaw, same] at law
  rcases law with ⟨address, word, quiet, pushes⟩ | ⟨word, quiet, pops⟩ | ⟨call, ret, keeps⟩
  · exact .inl ⟨address, word, quiet, pushes.of_countDown⟩
  · exact .inr (.inl ⟨word, quiet, pops.sp, pops.stack, pops.pc⟩)
  · exact .inr (.inr ⟨call, ret, keeps.sp, keeps.stack⟩)

end Processor

namespace Operation

/-- Whether an operation loads nothing and executes one instruction at most. -/
def isSingle : Operation → Bool
  | loadFont _ | changeKey _ _ | releaseKeys | pokeRegister _ _ | pokePixel _ _ _ | tick _ | cycle
  | step _ => true
  | load _ _ | loadImage _ _ | reload _ | steps _ _ | run _ _ _ _ _ => false

end Operation

namespace Machine

open Processor

/-- The instruction that a single operation executes, if it executes one. -/
def executed? (machine : Machine) : Operation → Option Instruction
  | .cycle => some machine.instruction
  | .step _ => if machine.processor.fault = none then some machine.instruction else none
  | _ => none

/-! ### Single operations -/

theorem leadsTo_cycle (machine : Machine) : LeadsTo machine.effect machine.cycle.1.processor :=
  ⟨rfl, rfl, rfl⟩

theorem stackLaw_cycle (machine : Machine) :
    machine.processor.StackLaw machine.instruction machine.cycle.1.processor :=
  stackLaw_of_leadsTo machine.leadsTo_cycle

theorem pushes_cycle {machine : Machine} {address : UInt16}
    (word : machine.instruction = .call address) (room : machine.processor.sp < 16) :
    machine.processor.Pushes address machine.cycle.1.processor :=
  pushes_of_leadsTo word room machine.leadsTo_cycle

theorem keeps_tick (machine : Machine) (now : Int) :
    machine.processor.Keeps (machine.tick now).1.processor := by
  rcases machine.processor_tick now with still | counted
  · rw [still]
    exact machine.processor.keeps_refl
  · rw [counted]
    exact ⟨rfl, rfl⟩

theorem keeps_loadFont (machine : Machine) (bytes : Array UInt8) :
    machine.processor.Keeps (machine.perform (.loadFont bytes)).processor := by
  simp only [perform, loadFont]
  by_cases sized : bytes.size = 80
  · simp only [dif_pos sized]
    exact ⟨rfl, rfl⟩
  · simp only [dif_neg sized]
    exact machine.processor.keeps_refl

theorem stackLaw_step {machine : Machine} (now : Int) (going : machine.processor.fault = none) :
    machine.processor.StackLaw machine.instruction (machine.step now).1.processor := by
  have law := (machine.tick now).1.stackLaw_cycle
  rw [instruction_tick] at law
  rw [step_machine_of_none now going]
  rcases machine.processor_tick now with still | counted
  · rwa [still] at law
  · rw [counted] at law
    exact law.of_countDown

/-- A single operation pushes for a call, pops for a return, and otherwise keeps the stack. -/
theorem perform_cases (machine : Machine) {operation : Operation}
    (single : operation.isSingle = true) :
    (∃ address, machine.executed? operation = some (.call address) ∧
      machine.processor.Pushes address (machine.perform operation).processor) ∨
    (machine.executed? operation = some .ret ∧
      machine.processor.Pops (machine.perform operation).processor) ∨
    machine.processor.Keeps (machine.perform operation).processor := by
  cases operation with
  | cycle =>
      rcases machine.stackLaw_cycle with
        ⟨address, word, -, pushes⟩ | ⟨word, -, pops⟩ | ⟨-, -, keeps⟩
      · exact .inl ⟨address, congrArg some word, pushes⟩
      · exact .inr (.inl ⟨congrArg some word, pops⟩)
      · exact .inr (.inr keeps)
  | step now =>
      cases fault : machine.processor.fault with
      | some fault =>
          right; right
          rw [perform, step_of_fault now fault]
          exact machine.processor.keeps_refl
      | none =>
          have executes : machine.executed? (.step now) = some machine.instruction := if_pos fault
          rw [executes]
          rcases machine.stackLaw_step now fault with
            ⟨address, word, -, pushes⟩ | ⟨word, -, pops⟩ | ⟨-, -, keeps⟩
          · exact .inl ⟨address, congrArg some word, pushes⟩
          · exact .inr (.inl ⟨congrArg some word, pops⟩)
          · exact .inr (.inr keeps)
  | tick now => exact .inr (.inr (machine.keeps_tick now))
  | loadFont bytes => exact .inr (.inr (machine.keeps_loadFont bytes))
  | changeKey | releaseKeys | pokeRegister | pokePixel => exact .inr (.inr ⟨rfl, rfl⟩)
  | load | loadImage | reload | steps | run => simp [Operation.isSingle] at single

theorem pushes_perform {machine : Machine} {operation : Operation} {address : UInt16}
    (calls : machine.executed? operation = some (.call address))
    (room : machine.processor.sp < 16) :
    machine.processor.Pushes address (machine.perform operation).processor := by
  cases operation with
  | cycle =>
      have word : machine.instruction = .call address := Option.some.inj calls
      exact pushes_cycle word room
  | step now =>
      cases fault : machine.processor.fault with
      | some fault => simp [executed?, fault] at calls
      | none =>
          have word : (machine.tick now).1.instruction = .call address := by
            rw [instruction_tick]
            exact Option.some.inj ((if_pos fault).symm.trans calls)
          have ticked_room : (machine.tick now).1.processor.sp < 16 := by
            rwa [(machine.keeps_tick now).sp]
          have pushes := pushes_cycle word ticked_room
          rw [perform, step_machine_of_none now fault]
          rcases machine.processor_tick now with still | counted
          · rwa [still] at pushes
          · rw [counted] at pushes
            exact pushes.of_countDown
  | load | loadImage | reload | loadFont | changeKey | releaseKeys | pokeRegister | pokePixel
  | tick | steps | run => simp [executed?] at calls

/-! ### Inside a subroutine -/

/-- Control has gone deeper than where the caller stood, and what the caller left on the stack is
still there. -/
structure Within (caller : Processor) (machine : Machine) : Prop where
  /-- There are more return addresses than there were. -/
  deeper : caller.sp < machine.processor.sp
  /-- The return addresses of the caller are untouched. -/
  below : ∀ slot < caller.sp, machine.processor.stack[slot]? = caller.stack[slot]?
  /-- On top of them lies the address to come back to. -/
  resume : machine.processor.stack[caller.sp]? = some ((caller.pc + 2) % 4096)

variable {caller : Processor} {machine : Machine}

theorem within_of_pushes {address : UInt16} (pushes : caller.Pushes address machine.processor) :
    Within caller machine where
  deeper := by
    rw [pushes.sp]
    omega
  below slot slot_lt := by
    have apart : ¬caller.sp = slot := by omega
    simp [pushes.stack, apart]
  resume := by
    have room := pushes.room
    simp [pushes.stack, room]

/-- Until the stack is as high as the caller left it, a single operation stays inside. -/
theorem Within.perform (within : Within caller machine) {operation : Operation}
    (single : operation.isSingle = true)
    (stays : (machine.perform operation).processor.sp ≠ caller.sp) :
    Within caller (machine.perform operation) := by
  obtain ⟨deeper, below, resume⟩ := within
  rcases machine.perform_cases single with ⟨address, -, pushes⟩ | ⟨-, pops⟩ | keeps
  · -- A nested call writes above the slot to resume from.
    have sp_eq := pushes.sp
    constructor
    · omega
    · intro slot slot_lt
      have apart : ¬machine.processor.sp = slot := by omega
      rw [← below slot slot_lt, pushes.stack]
      simp [apart]
    · have apart : ¬machine.processor.sp = caller.sp := by omega
      rw [← resume, pushes.stack]
      simp [apart]
  · have sp_eq := pops.sp
    exact ⟨by omega, by rwa [pops.stack], by rwa [pops.stack]⟩
  · exact ⟨by rwa [keeps.sp], by rwa [keeps.stack], by rwa [keeps.stack]⟩

theorem Within.performAll (within : Within caller machine) {moves : List Operation}
    (single : ∀ move ∈ moves, move.isSingle = true)
    (stays : ∀ count, 0 < count → count ≤ moves.length →
      (machine.performAll (moves.take count)).processor.sp ≠ caller.sp) :
    Within caller (machine.performAll moves) := by
  induction moves generalizing machine with
  | nil => exact within
  | cons move moves induction =>
      have first := within.perform (single move List.mem_cons_self)
        (stays 1 Nat.one_pos (by simp))
      refine induction first (fun later member => single later (List.mem_cons_of_mem _ member)) ?_
      intro count _ count_le
      exact stays (count + 1) (Nat.succ_pos count) (Nat.succ_le_succ count_le)

/-- Only a return brings the stack back, and it goes where the caller left off. -/
theorem Within.ret (within : Within caller machine) {last : Operation}
    (single : last.isSingle = true)
    (returns : (machine.perform last).processor.sp = caller.sp) :
    machine.executed? last = some .ret ∧
      (machine.perform last).processor.pc = (caller.pc + 2) % 4096 ∧
      ∀ slot < caller.sp, (machine.perform last).processor.stack[slot]? = caller.stack[slot]? := by
  obtain ⟨deeper, below, resume⟩ := within
  rcases machine.perform_cases single with ⟨address, -, pushes⟩ | ⟨executes, pops⟩ | keeps
  · have sp_eq := pushes.sp
    omega
  · refine ⟨executes, ?_, ?_⟩
    · rw [pops.pc, returns, resume, Option.getD_some]
      apply UInt16.toNat_inj.mp
      simp
    · rwa [pops.stack]
  · have sp_eq := keeps.sp
    omega

/-- A call that finds a free slot pushes and goes to its address.  Whatever single operations
follow: as long as the stack has not come back to the height of the caller, control is within the
call, and the operation that brings the stack back is a return to the instruction behind the
call. -/
def LastInFirstOut (machine : Machine) : Prop :=
  ∀ (entry : Operation) (address : UInt16),
    machine.executed? entry = some (.call address) → machine.processor.sp < 16 →
    let entered := machine.perform entry
    machine.processor.Pushes address entered.processor ∧
      ∀ moves : List Operation, (∀ move ∈ moves, move.isSingle = true) →
        (∀ count, 0 < count → count ≤ moves.length →
          (entered.performAll (moves.take count)).processor.sp ≠ machine.processor.sp) →
        let inner := entered.performAll moves
        Within machine.processor inner ∧
          ∀ last : Operation, last.isSingle = true →
            (inner.perform last).processor.sp = machine.processor.sp →
            inner.executed? last = some .ret ∧
              (inner.perform last).processor.pc = (machine.processor.pc + 2) % 4096 ∧
              ∀ slot < machine.processor.sp,
                (inner.perform last).processor.stack[slot]? = machine.processor.stack[slot]?

theorem lastInFirstOut (machine : Machine) : machine.LastInFirstOut := by
  intro entry address calls room entered
  have pushes : machine.processor.Pushes address entered.processor := pushes_perform calls room
  refine ⟨pushes, fun moves single stays => ?_⟩
  have within := (within_of_pushes pushes).performAll single stays
  exact ⟨within, fun last => within.ret⟩

end Machine
end Chip8
