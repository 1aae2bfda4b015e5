import Chip8.Proofs.CallStack
import Chip8.Proofs.Loading

/-!
# Calls and returns of a history

A history is accompanied by what it does to the stack in order: the loads, those that the device of
a run asks for among them, and the instructions with the faults that they raise.  Counting the calls
and returns that raise none from the last load on gives the height of the stack.
-/

namespace Chip8

/-- Something done to a machine that bears on its stack. -/
inductive Deed where
  /-- A program is loaded, whether for the first time or again. -/
  | load
  /-- An instruction is executed, and may raise a fault. -/
  | execute (instruction : Instruction) (fault : Option Fault)
deriving DecidableEq, Repr

/-- The calls and returns since the last load that raised no fault. -/
structure Tally where
  calls : Nat
  returns : Nat
deriving DecidableEq, Repr

namespace Tally

/-- Nothing called, nothing returned. -/
def zero : Tally := ⟨0, 0⟩

/-- Count one deed. -/
def count (tally : Tally) : Deed → Tally
  | .load => zero
  | .execute (.call _) none => { tally with calls := tally.calls + 1 }
  | .execute .ret none => { tally with returns := tally.returns + 1 }
  | .execute _ _ => tally

/-- Count deeds in order. -/
def countAll (tally : Tally) (deeds : List Deed) : Tally := deeds.foldl count tally

theorem countAll_append (tally : Tally) (earlier later : List Deed) :
    tally.countAll (earlier ++ later) = (tally.countAll earlier).countAll later :=
  List.foldl_append

end Tally

/-! ### The deeds of a history -/

namespace Machine

/-- The deeds of a step: it executes nothing if the machine has stopped, and otherwise an
instruction that may stop it. -/
def stepDeeds (machine : Machine) (now : Int) : List Deed :=
  match machine.processor.fault with
  | some _ => []
  | none => [.execute machine.instruction (machine.step now).1.processor.fault]

/-- The deeds of a number of steps, up to the first fault. -/
def stepsDeeds (machine : Machine) (now : Int) : Nat → List Deed
  | 0 => []
  | count + 1 =>
      machine.stepDeeds now ++
        match machine.step now with
        | (machine, .ok _) => machine.stepsDeeds now count
        | (_, .error _) => []

end Machine

namespace Run

variable {σ : Type}

/-- The deeds of an iteration. -/
def iterateDeeds (run : Run σ) (device : Device σ) : List Deed :=
  match run.polled device with
  | (_, .quit) => []
  | (run, .reload) => .load :: run.reload.machine.stepDeeds run.reload.now
  | (run, .proceed) => run.machine.stepDeeds run.now

/-- The deeds of a run, with at most `bound` polls. -/
def completeDeeds (run : Run σ) (device : Device σ) (yield : Nat) : Nat → List Deed
  | 0 => []
  | bound + 1 =>
      match run.result with
      | some _ => []
      | none =>
          run.iterateDeeds device ++ (run.iterate device yield).completeDeeds device yield bound

end Run

namespace Machine

/-- The deeds of an operation.  A bare cycle may follow a fault, so what counts is the fault of its
own instruction. -/
def deeds (machine : Machine) : Operation → List Deed
  | .load _ _ | .loadImage _ _ | .reload _ => [.load]
  | .cycle => [.execute machine.instruction machine.raised?]
  | .step now => machine.stepDeeds now
  | .steps now count => machine.stepsDeeds now count
  | .run device state yield now bound =>
      (Run.begin machine state now).completeDeeds device yield bound
  | .loadFont _ | .changeKey _ _ | .releaseKeys | .pokeRegister _ _ | .pokePixel _ _ _
  | .tick _ => []

/-- The deeds of a history. -/
def allDeeds (machine : Machine) : List Operation → List Deed
  | [] => []
  | operation :: history => machine.deeds operation ++ (machine.perform operation).allDeeds history

/-! ### The balance -/

/-- The height of the stack is what was called and has not returned. -/
def Balanced (machine : Machine) (tally : Tally) : Prop :=
  machine.processor.sp + tally.returns = tally.calls

variable {machine : Machine} {tally : Tally}

theorem balanced_load (machine : Machine) (bytes : Array UInt8) (now : Int) :
    (machine.load bytes now).Balanced .zero := rfl

theorem Balanced.of_keeps {after : Machine} (balanced : machine.Balanced tally)
    (keeps : machine.processor.Keeps after.processor) : after.Balanced tally := by
  rw [Balanced]
  rw [keeps.sp]
  exact balanced

theorem Balanced.execute {after : Machine} (balanced : machine.Balanced tally)
    (law : machine.processor.StackLaw machine.instruction after.processor) :
    after.Balanced (tally.count (.execute machine.instruction machine.raised?)) := by
  unfold Balanced at balanced ⊢
  rw [raised?]
  rcases law with ⟨address, word, quiet, pushes⟩ | ⟨word, quiet, pops⟩ | ⟨call, ret, keeps⟩
  · rw [quiet, word]
    calc after.processor.sp + tally.returns
        = machine.processor.sp + 1 + tally.returns := by rw [pushes.sp]
      _ = machine.processor.sp + tally.returns + 1 := Nat.add_right_comm ..
      _ = tally.calls + 1 := by rw [balanced]
  · rw [quiet, word]
    calc after.processor.sp + (tally.returns + 1)
        = after.processor.sp + 1 + tally.returns := by omega
      _ = machine.processor.sp + tally.returns := by rw [pops.sp]
      _ = tally.calls := balanced
  · have ignored : tally.count (.execute machine.instruction
        (machine.processor.raised? machine.instruction)) = tally := by
      cases instruction : machine.instruction with
      | call address =>
          obtain ⟨fault, raises⟩ := Option.ne_none_iff_exists'.mp (call address instruction)
          rw [← instruction, raises, instruction]
          rfl
      | ret =>
          obtain ⟨fault, raises⟩ := Option.ne_none_iff_exists'.mp (ret instruction)
          rw [← instruction, raises, instruction]
          rfl
      | _ => rfl
    rw [ignored, keeps.sp]
    exact balanced

theorem Balanced.step (balanced : machine.Balanced tally) (now : Int) :
    (machine.step now).1.Balanced (tally.countAll (machine.stepDeeds now)) := by
  cases fault : machine.processor.fault with
  | some fault =>
      simp only [stepDeeds, fault, step_of_fault now fault]
      exact balanced
  | none =>
      simp only [stepDeeds, fault, fault_step now fault]
      exact balanced.execute (machine.stackLaw_step now fault)

theorem Balanced.stepsFrom (balanced : machine.Balanced tally) (now : Int) (directive : Directive)
    (count : Nat) :
    (machine.stepsFrom now directive count).1.Balanced
      (tally.countAll (machine.stepsDeeds now count)) := by
  induction count generalizing machine tally directive with
  | zero => exact balanced
  | succ count induction =>
      have after := balanced.step now
      rw [Machine.stepsFrom, stepsDeeds, Tally.countAll_append]
      rcases outcome : machine.step now with ⟨next, fault | directive⟩
      · rw [outcome] at after
        exact after
      · rw [outcome] at after
        exact induction after directive

end Machine

namespace Run

open Machine

variable {σ : Type} {run : Run σ} {tally : Tally} (device : Device σ) (yield : Nat)

/-- Presenting or ending after the step changes nothing. -/
theorem balanced_stepAndPresent (balanced : run.machine.Balanced tally) :
    (run.stepAndPresent device yield).machine.Balanced
      (tally.countAll (run.machine.stepDeeds run.now)) := by
  have stepped := balanced.step run.now
  cases outcome : (run.machine.step run.now).2 with
  | error fault =>
      rw [stepAndPresent_of_error device yield outcome]
      exact stepped
  | ok directive =>
      rw [stepAndPresent_of_ok device yield outcome]
      exact stepped

theorem balanced_iterate (balanced : run.machine.Balanced tally) :
    (run.iterate device yield).machine.Balanced (tally.countAll (run.iterateDeeds device)) := by
  have polled : (run.polled device).1.machine.Balanced tally := balanced
  unfold iterate iterateDeeds
  rcases outcome : run.polled device with ⟨next, control⟩
  rw [outcome] at polled
  cases control with
  | quit => exact polled
  | reload => exact balanced_stepAndPresent device yield (next.machine.balanced_load _ next.now)
  | proceed => exact balanced_stepAndPresent device yield polled

theorem balanced_complete (balanced : run.machine.Balanced tally) (bound : Nat) :
    (run.complete device yield bound).machine.Balanced
      (tally.countAll (run.completeDeeds device yield bound)) := by
  induction bound generalizing run tally with
  | zero => exact balanced
  | succ bound induction =>
      cases going : run.result with
      | some result =>
          simp only [complete, completeDeeds, going]
          exact balanced
      | none =>
          simp only [complete, completeDeeds, going, Tally.countAll_append]
          exact induction (balanced_iterate device yield balanced)

end Run

namespace Machine

variable {machine : Machine} {tally : Tally}

theorem Balanced.perform (balanced : machine.Balanced tally) (operation : Operation) :
    (machine.perform operation).Balanced (tally.countAll (machine.deeds operation)) := by
  cases operation with
  | load bytes now => exact machine.balanced_load bytes now
  | loadImage image now => exact machine.balanced_load image.data now
  | reload now => exact machine.balanced_load machine.program now
  | cycle => exact balanced.execute machine.stackLaw_cycle
  | step now => exact balanced.step now
  | steps now count => exact balanced.stepsFrom now .next count
  | run device state yield now bound =>
      exact Run.balanced_complete device yield balanced bound
  | tick now => exact balanced.of_keeps (machine.keeps_tick now)
  | loadFont bytes => exact balanced.of_keeps (machine.keeps_loadFont bytes)
  | changeKey | releaseKeys | pokeRegister | pokePixel => exact balanced

theorem Balanced.performAll (balanced : machine.Balanced tally) (history : List Operation) :
    (machine.performAll history).Balanced (tally.countAll (machine.allDeeds history)) := by
  induction history generalizing machine tally with
  | nil => exact balanced
  | cons operation history induction =>
      rw [performAll_cons, allDeeds, Tally.countAll_append]
      exact induction (balanced.perform operation)

/-- Calls and returns are last in, first out, in every state that a history of a new machine leads
to, and the height of the stack is the number of calls less the number of returns since the last
load. -/
theorem calls_and_returns (interval : Nat) (seed : UInt64) (now : Int)
    (history : List Operation) :
    let machine := (create interval seed now).performAll history
    let tally := Tally.zero.countAll ((create interval seed now).allDeeds history)
    machine.LastInFirstOut ∧ machine.processor.sp + tally.returns = tally.calls := by
  have initial : (create interval seed now).Balanced .zero := rfl
  exact ⟨lastInFirstOut _, initial.performAll history⟩

/-- The height of the stack after some steps at time zero. -/
def height (machine : Machine) (count : Nat) : Nat :=
  (machine.performAll (List.replicate count (.step 0))).processor.sp

/-- Steps that enter a subroutine come back behind the call when the stack first has its height
again. -/
theorem LastInFirstOut.pc_of_height (law : machine.LastInFirstOut) {address : UInt16}
    (calls : machine.executed? (.step 0) = some (.call address)) (room : machine.processor.sp < 16)
    {count : Nat}
    (away : ∀ earlier, 0 < earlier → earlier ≤ count →
      machine.height (earlier + 1) ≠ machine.processor.sp)
    (back : machine.height (count + 2) = machine.processor.sp) :
    (machine.performAll (List.replicate (count + 2) (.step 0))).processor.pc =
      (machine.processor.pc + 2) % 4096 := by
  obtain ⟨-, returns⟩ := law (.step 0) address calls room
  have single : ∀ move ∈ List.replicate count (Operation.step 0), move.isSingle = true := by
    intro move member
    rw [List.eq_of_mem_replicate member]
    rfl
  obtain ⟨-, comes_back⟩ := returns (List.replicate count (.step 0)) single (by
    intro earlier positive within
    rw [List.length_replicate] at within
    rw [List.take_replicate, Nat.min_eq_left within]
    exact away earlier positive within)
  have last : List.replicate (count + 2) (Operation.step 0) =
      .step 0 :: (List.replicate count (.step 0) ++ [.step 0]) := by
    rw [List.replicate_succ, List.replicate_succ']
  rw [height, last, performAll_cons, performAll_append] at back
  rw [last, performAll_cons, performAll_append]
  exact (comes_back (.step 0) rfl back).2.1

/-- A program that calls a subroutine, which calls another and then returns. -/
def nested : Array UInt8 :=
  #[0x22, 0x06, 0x12, 0x02, 0x00, 0x00, 0x22, 0x0A, 0x00, 0xEE, 0x60, 0x07, 0x00, 0xEE]

/-- The first five steps of the program, from any memory that holds it. -/
theorem height_of_read {memory : Memory}
    (held : ∀ offset : Fin 14, memory.read (512 + offset.val) = nested[offset.val]?.getD 0)
    (random : Generator) (font : Font) (program : Array UInt8) :
    let machine : Machine :=
      ⟨.start memory .empty, ⟨0, 0⟩, .timer 0, random, font, program, 0⟩
    machine.executed? (.step 0) = some (.call 0x206) ∧
      machine.height 1 = 1 ∧ machine.height 2 = 2 ∧ machine.height 3 = 2 ∧
      machine.height 4 = 1 ∧ machine.height 5 = 0 := by
  have call : memory.read 512 = 0x22 ∧ memory.read 513 = 0x06 := ⟨held 0, held 1⟩
  have inner : memory.read 518 = 0x22 ∧ memory.read 519 = 0x0A := ⟨held 6, held 7⟩
  have ret : memory.read 520 = 0x00 ∧ memory.read 521 = 0xEE := ⟨held 8, held 9⟩
  have load : memory.read 522 = 0x60 ∧ memory.read 523 = 0x07 := ⟨held 10, held 11⟩
  have inner_ret : memory.read 524 = 0x00 ∧ memory.read 525 = 0xEE := ⟨held 12, held 13⟩
  have decoded : Opcode.decode ⟨0x2206⟩ = .call 0x206 ∧ Opcode.decode ⟨0x220A⟩ = .call 0x20A ∧
      Opcode.decode ⟨0x6007⟩ = .setByte 0 7 ∧ Opcode.decode ⟨0x00EE⟩ = .ret :=
    ⟨rfl, rfl, rfl, rfl⟩
  simp [height, executed?, instruction, performAll, perform, step, tick, cycle, Clock.timer,
    Clock.due, Clock.elapsed, intervalOfFrequency, nanosecondsPerSecond, timerFrequency,
    Processor.start, Processor.opcode, Processor.execute, Processor.executeFixed,
    Processor.callSubroutine, Processor.returnFromCall, Processor.setRegister, Directive.target,
    Opcode.ofBytes, call, inner, ret, load, inner_ret, decoded, List.replicate]

theorem LastInFirstOut.fifth (law : machine.LastInFirstOut) {address : UInt16}
    (calls : machine.executed? (.step 0) = some (.call address)) (bottom : machine.processor.sp = 0)
    (two : machine.height 2 = 2) (three : machine.height 3 = 2) (four : machine.height 4 = 1)
    (five : machine.height 5 = 0) :
    let returned := machine.performAll (List.replicate 5 (.step 0))
    returned.processor.sp = 0 ∧ returned.processor.pc = (machine.processor.pc + 2) % 4096 := by
  have room : machine.processor.sp < 16 := by omega
  have away : ∀ earlier, 0 < earlier → earlier ≤ 3 →
      machine.height (earlier + 1) ≠ machine.processor.sp := by
    intro earlier positive within
    rw [bottom]
    rcases show earlier = 1 ∨ earlier = 2 ∨ earlier = 3 by omega with rfl | rfl | rfl
    · exact ne_of_eq_of_ne two (by omega)
    · exact ne_of_eq_of_ne three (by omega)
    · exact ne_of_eq_of_ne four (by omega)
  exact ⟨five, law.pc_of_height calls room away (five.trans bottom.symm)⟩

/-- A new machine with the program. -/
def caller : Machine := (create 0 1 0).performAll [.load nested 0]

/-- The program goes to its subroutine and comes back behind the call, past a subroutine of the
subroutine.  By then it has returned as often as it has called. -/
theorem calls_and_returns_nested :
    let entered := caller.perform (.step 0)
    let returned := caller.performAll (List.replicate 5 (.step 0))
    let history := [.load nested 0] ++ List.replicate 5 (.step 0)
    let tally := Tally.zero.countAll ((create 0 1 0).allDeeds history)
    (entered.processor.sp = 1 ∧ entered.processor.pc = 0x206) ∧
      (returned.processor.sp = 0 ∧ returned.processor.pc = 0x202) ∧
      tally.returns = tally.calls := by
  have held (offset : Fin 14) :
      caller.processor.memory.read (512 + offset.val) = nested[offset.val]?.getD 0 :=
    (create 0 1 0).read_load_getD nested 0 (by omega)
  have loaded : caller = ⟨.start caller.processor.memory .empty, ⟨0, 0⟩, .timer 0, .ofSeed 1,
      .standard, nested.take programCapacity, 0⟩ := rfl
  have heights := height_of_read held (.ofSeed 1) .standard (nested.take programCapacity)
  rw [← loaded] at heights
  obtain ⟨calls, -, two, three, four, five⟩ := heights
  have bottom : caller.processor.sp = 0 := rfl
  have law : caller.LastInFirstOut := (calls_and_returns 0 1 0 [.load nested 0]).1
  obtain ⟨pushes, -⟩ := law (.step 0) 0x206 calls (by decide)
  obtain ⟨sp, pc⟩ := law.fifth calls bottom two three four five
  obtain ⟨-, balanced⟩ :=
    calls_and_returns 0 1 0 ([.load nested 0] ++ List.replicate 5 (.step 0))
  rw [performAll_append, ← caller, sp, Nat.zero_add] at balanced
  exact ⟨⟨pushes.sp, pushes.pc⟩, ⟨sp, pc⟩, balanced⟩

end Machine
end Chip8
