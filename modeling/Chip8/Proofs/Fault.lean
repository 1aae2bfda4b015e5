import Chip8.Proofs.Bounds
import Chip8.Proofs.Encoding

/-!
# Faults

Two instructions can stop a machine: a call that finds the stack full and a return that finds it
empty.  Either changes nothing but the fault itself.  From then on steps are refused and change
nothing at all, until a program is loaded.
-/

namespace Chip8

namespace Opcode

theorem decode_eq_call_iff (op : Opcode) :
    (∃ address, op.decode = .call address) ↔ op.word.toNat / 0x1000 = 2 := by
  have family_iff : op.family = 0x2 ↔ op.word.toNat / 0x1000 = 2 := by
    rw [← val_family]
    exact Fin.ext_iff
  simp only [decode_eq_iff, Denotes, family_iff, exists_and_left, exists_eq', and_true]

theorem decode_eq_ret_iff (op : Opcode) : op.decode = .ret ↔ op.word.toNat = 0x00EE :=
  decode_eq_iff.trans UInt16.toNat_inj.symm

end Opcode

namespace Processor

/-- The fault that an instruction raises, if it raises one. -/
def raised? (processor : Processor) : Instruction → Option Fault
  | .ret => if processor.sp = 0 then some .stackUnderflow else none
  | .call _ => if 16 ≤ processor.sp then some .stackOverflow else none
  | _ => none

theorem fault_of_not_raised {processor : Processor} {instruction : Instruction}
    (random : Generator) (quiet : processor.raised? instruction = none) :
    (processor.execute random instruction).processor.fault = processor.fault := by
  rw [(processor.executed_execute random instruction).fault]
  cases instruction with
  | ret | call address =>
      simp only [raised?, ite_eq_right_iff, reduceCtorEq, imp_false] at quiet
      exact if_neg quiet
  | _ => rfl

theorem execute_of_raised {processor : Processor} {instruction : Instruction} {fault : Fault}
    (random : Generator) (raises : processor.raised? instruction = some fault) :
    processor.execute random instruction =
      ⟨{ processor with fault := some fault }, random, .stall⟩ := by
  cases instruction with
  | ret =>
      simp only [raised?, Option.ite_none_right_eq_some, Option.some.injEq] at raises
      obtain ⟨bottom, rfl⟩ := raises
      simp only [execute, executeFixed, returnFromCall, if_pos bottom]
  | call address =>
      simp only [raised?, Option.ite_none_right_eq_some, Option.some.injEq] at raises
      obtain ⟨full, rfl⟩ := raises
      simp only [execute, executeFixed, callSubroutine, if_pos full]
  | _ => simp [raised?] at raises

end Processor

namespace Machine

/-- The fault that the instruction at the program counter raises, if it raises one. -/
def raised? (machine : Machine) : Option Fault := machine.processor.raised? machine.instruction

/-! ### Raising a fault -/

section Raising

variable {machine : Machine}

theorem raised?_tick (machine : Machine) (now : Int) :
    (machine.tick now).1.raised? = machine.raised? := by
  rw [tick]
  split <;> rfl

theorem cycle_of_raised {fault : Fault} (raises : machine.raised? = some fault) :
    machine.cycle = ({ machine with processor.fault := some fault }, .stall) := by
  have effect := Processor.execute_of_raised machine.random raises
  rw [instruction] at effect
  simp only [cycle, effect]
  rfl

theorem fault_cycle_of_not_raised (quiet : machine.raised? = none) :
    machine.cycle.1.processor.fault = machine.processor.fault := by
  rw [processor_cycle]
  exact Processor.fault_of_not_raised machine.random quiet

theorem fault_tick (machine : Machine) (now : Int) :
    (machine.tick now).1.processor.fault = machine.processor.fault := by
  rw [tick]
  split <;> rfl

/-- A step that raises a fault ticks and then stops the machine. -/
theorem step_of_raised {fault : Fault} (now : Int) (going : machine.processor.fault = none)
    (raises : machine.raised? = some fault) :
    machine.step now =
      ({ (machine.tick now).1 with processor.fault := some fault }, .error fault) := by
  rw [← raised?_tick machine now] at raises
  simp only [step, going, cycle_of_raised raises]

theorem step_of_not_raised (now : Int) (going : machine.processor.fault = none)
    (quiet : machine.raised? = none) :
    machine.step now =
      ((machine.tick now).1.cycle.1, .ok (machine.tick now).1.cycle.2) := by
  rw [← raised?_tick machine now] at quiet
  have goes_on : (machine.tick now).1.cycle.1.processor.fault = none := by
    rw [fault_cycle_of_not_raised quiet, fault_tick, going]
  simp only [step, going, goes_on]

/-- A running machine fails a step with the fault that its instruction raises. -/
theorem step_eq_error_iff (now : Int) (going : machine.processor.fault = none) (fault : Fault) :
    (machine.step now).2 = .error fault ↔ machine.raised? = some fault := by
  cases raises : machine.raised? with
  | none => simp [step_of_not_raised now going raises]
  | some other => simp [step_of_raised now going raises]

theorem step_of_system (now : Int) {address : UInt16}
    (going : machine.processor.fault = none) (system : machine.instruction = .system address) :
    machine.step now =
      ({ (machine.tick now).1 with processor.pc := (machine.processor.pc + 2) % 4096 },
        .ok .next) := by
  have quiet : machine.raised? = none := by
    simp only [raised?, system, Processor.raised?]
  have pc : (machine.tick now).1.processor.pc = machine.processor.pc := by
    rw [tick]
    split <;> rfl
  have decoded : (machine.tick now).1.processor.opcode.decode = .system address :=
    (machine.instruction_tick now).trans system
  rw [step_of_not_raised now going quiet, ← pc]
  simp only [cycle, decoded]
  rfl

theorem instruction_step_of_system (now : Int) {address : UInt16}
    (going : machine.processor.fault = none) (system : machine.instruction = .system address) :
    (machine.step now).1.instruction =
      { machine.processor with pc := (machine.processor.pc + 2) % 4096 }.opcode.decode := by
  rw [step_of_system now going system]
  rcases machine.processor_tick now with still | counted
  · simp only [instruction, still]
  · simp only [instruction, counted]
    rfl

theorem fault_of_ok {now : Int} {directive : Directive}
    (goes : (machine.step now).2 = .ok directive) : machine.processor.fault = none := by
  cases going : machine.processor.fault with
  | none => rfl
  | some fault => simp [step_of_fault now going] at goes

theorem fault_step_of_ok {now : Int} {directive : Directive}
    (goes : (machine.step now).2 = .ok directive) :
    (machine.step now).1.processor.fault = none := by
  have going := fault_of_ok goes
  cases raises : machine.raised? with
  | some fault => simp [step_of_raised now going raises] at goes
  | none =>
      rw [step_of_not_raised now going raises]
      rw [← raised?_tick machine now] at raises
      rw [fault_cycle_of_not_raised raises, fault_tick, going]

theorem fault_step (now : Int) (going : machine.processor.fault = none) :
    (machine.step now).1.processor.fault = machine.raised? := by
  cases raises : machine.raised? with
  | some fault => rw [step_of_raised now going raises]
  | none =>
      have goes : (machine.step now).2 = .ok (machine.tick now).1.cycle.2 :=
        congrArg Prod.snd (step_of_not_raised now going raises)
      exact fault_step_of_ok goes

theorem raised?_eq_overflow_iff (bounded : machine.Bounded) :
    machine.raised? = some .stackOverflow ↔
      machine.processor.opcode.word.toNat / 0x1000 = 2 ∧ machine.processor.sp = 16 := by
  have sp_le := bounded.processor.sp
  have full_iff : 16 ≤ machine.processor.sp ↔ machine.processor.sp = 16 := by omega
  rw [← Opcode.decode_eq_call_iff, ← full_iff]
  change machine.processor.raised? machine.processor.opcode.decode = _ ↔ _
  cases decoded : machine.processor.opcode.decode <;> simp [Processor.raised?]

theorem raised?_eq_underflow_iff (machine : Machine) :
    machine.raised? = some .stackUnderflow ↔
      machine.processor.opcode.word.toNat = 0x00EE ∧ machine.processor.sp = 0 := by
  rw [← Opcode.decode_eq_ret_iff]
  change machine.processor.raised? machine.processor.opcode.decode = _ ↔ _
  cases decoded : machine.processor.opcode.decode <;> simp [Processor.raised?]

end Raising

/-- A step fails for one of two reasons, in the words of the fault, and then leaves everything but
the fault and a due tick of the timers as it was. -/
structure FailsExactly (machine : Machine) (now : Int) : Prop where
  /-- A call finds the stack full. -/
  overflow : (∃ fault, (machine.step now).2 = .error fault ∧
      fault.message = "call stack overflow") ↔
    machine.processor.opcode.word.toNat / 0x1000 = 2 ∧ machine.processor.sp = 16
  /-- A return finds the stack empty. -/
  underflow : (∃ fault, (machine.step now).2 = .error fault ∧
      fault.message = "call stack underflow") ↔
    machine.processor.opcode.word.toNat = 0x00EE ∧ machine.processor.sp = 0
  /-- There are no other reasons. -/
  message : ∀ fault, (machine.step now).2 = .error fault →
    fault.message = "call stack overflow" ∨ fault.message = "call stack underflow"
  /-- The timers may have ticked, and nothing else but the fault is new. -/
  atomic : ∀ fault, (machine.step now).2 = .error fault →
    (machine.step now).1 =
      { machine with
        processor :=
          { machine.processor with
            delayTimer := (machine.tick now).1.processor.delayTimer
            soundTimer := (machine.tick now).1.processor.soundTimer
            fault := some fault }
        timer := (machine.tick now).1.timer }

/-- A tick touches the two timers and their clock. -/
theorem tick_eq (machine : Machine) (now : Int) :
    (machine.tick now).1 =
      { machine with
        processor :=
          { machine.processor with
            delayTimer := (machine.tick now).1.processor.delayTimer
            soundTimer := (machine.tick now).1.processor.soundTimer }
        timer := (machine.tick now).1.timer } := by
  rw [tick]
  split <;> rfl

theorem Bounded.failsExactly {machine : Machine} (bounded : machine.Bounded)
    (going : machine.processor.fault = none) (now : Int) : machine.FailsExactly now where
  overflow := by
    rw [← raised?_eq_overflow_iff bounded, ← step_eq_error_iff now going]
    constructor
    · rintro ⟨fault | fault, fails, wording⟩
      · exact fails
      · simp [Fault.message] at wording
    · intro fails
      exact ⟨_, fails, rfl⟩
  underflow := by
    rw [← raised?_eq_underflow_iff machine, ← step_eq_error_iff now going]
    constructor
    · rintro ⟨fault | fault, fails, wording⟩
      · simp [Fault.message] at wording
      · exact fails
    · intro fails
      exact ⟨_, fails, rfl⟩
  message fault _ := by
    cases fault with
    | stackOverflow => exact .inl rfl
    | stackUnderflow => exact .inr rfl
  atomic fault fails := by
    rw [step_of_raised now going ((step_eq_error_iff now going fault).mp fails), tick_eq]

/-! ### Staying stopped -/

/-- Whether an operation loads a program into the machine.  A run does so when one of its polls is
answered by asking for a reload. -/
def Loads (machine : Machine) : Operation → Prop
  | .load _ _ | .loadImage _ _ | .reload _ => True
  | .run device state yield now bound =>
      ∃ polls < bound,
        (machine.run device state yield now polls).result = none ∧
          ((machine.run device state yield now polls).polled device).2 = .reload
  | _ => False

/-- No operation of a history loads a program. -/
def Undisturbed (machine : Machine) : List Operation → Prop
  | [] => True
  | operation :: history =>
      ¬machine.Loads operation ∧ (machine.perform operation).Undisturbed history

end Machine

namespace Operation

/-- Whether an operation executes an instruction without a look at the fault. -/
def isCycle : Operation → Bool
  | cycle => true
  | _ => false

end Operation

namespace Machine

variable {machine : Machine} {fault : Fault}

theorem fault_run {σ : Type} {device : Device σ} {state : σ} {yield : Nat} {now : Int}
    {bound : Nat} (stopped : machine.processor.fault = some fault)
    (keeps : ¬machine.Loads (.run device state yield now bound)) :
    (machine.run device state yield now bound).machine.processor.fault = some fault := by
  cases bound with
  | zero => exact stopped
  | succ bound =>
      have stays : ((Run.begin machine state now).polled device).2 ≠ .reload :=
        fun reloads => keeps ⟨0, Nat.succ_pos bound, rfl, reloads⟩
      rw [run, Run.complete_succ_of_none device yield rfl]
      by_cases quits : ((Run.begin machine state now).polled device).2 = .quit
      · rw [Run.iterate_of_quit yield quits, Run.complete_of_result device yield rfl]
        exact stopped
      · rw [Run.iterate_of_ne_quit yield quits, Run.readied, if_neg stays]
        have refused : ∀ moment, ((Run.begin machine state now).polled device).1.machine.step
            moment = (((Run.begin machine state now).polled device).1.machine, .error fault) :=
          fun moment => step_of_fault moment stopped
        rw [Run.stepAndPresent_of_error device yield (congrArg Prod.snd (refused _)),
          Run.complete_of_result device yield rfl]
        exact (congrArg (fun outcome => outcome.1.processor.fault) (refused _)).trans stopped

/-- Between loads a fault stays as it is, unless an instruction is executed regardless. -/
theorem fault_perform {operation : Operation} (stopped : machine.processor.fault = some fault)
    (keeps : ¬machine.Loads operation) (heeds : operation.isCycle = false) :
    (machine.perform operation).processor.fault = some fault := by
  cases operation with
  | load | loadImage | reload => exact absurd trivial keeps
  | cycle => simp [Operation.isCycle] at heeds
  | loadFont bytes =>
      simp only [perform, loadFont]
      by_cases sized : bytes.size = 80
      · simpa only [dif_pos sized] using stopped
      · simpa only [dif_neg sized] using stopped
  | tick now => exact (machine.fault_tick now).trans stopped
  | step now =>
      rw [perform, step_of_fault now stopped]
      exact stopped
  | steps now count =>
      refine stepsFrom_induction (motive := fun after => after.processor.fault = some fault)
        ?_ machine stopped .next count
      intro before before_stopped
      rwa [step_of_fault now before_stopped]
  | run device state yield now bound => exact fault_run stopped keeps
  | changeKey | releaseKeys | pokeRegister | pokePixel => exact stopped

/-- An instruction that is executed regardless may replace a fault but never clears it. -/
theorem isSome_fault_cycle (stopped : machine.processor.fault.isSome) :
    machine.cycle.1.processor.fault.isSome := by
  cases raises : machine.raised? with
  | none => rwa [fault_cycle_of_not_raised raises]
  | some fault =>
      rw [cycle_of_raised raises]
      rfl

theorem isSome_fault_performAll {history : List Operation}
    (stopped : machine.processor.fault.isSome) (undisturbed : machine.Undisturbed history) :
    (machine.performAll history).processor.fault.isSome := by
  induction history generalizing machine with
  | nil => exact stopped
  | cons operation history induction =>
      obtain ⟨keeps, later⟩ := undisturbed
      refine induction ?_ later
      cases heeds : operation.isCycle with
      | true =>
          cases operation with
          | cycle => exact isSome_fault_cycle stopped
          | _ => simp [Operation.isCycle] at heeds
      | false =>
          obtain ⟨fault, stopped⟩ := Option.isSome_iff_exists.mp stopped
          rw [fault_perform stopped keeps heeds]
          rfl

theorem fault_performAll {history : List Operation}
    (stopped : machine.processor.fault = some fault) (undisturbed : machine.Undisturbed history)
    (heeds : ∀ operation ∈ history, operation.isCycle = false) :
    (machine.performAll history).processor.fault = some fault := by
  induction history generalizing machine with
  | nil => exact stopped
  | cons operation history induction =>
      obtain ⟨keeps, later⟩ := undisturbed
      have first := fault_perform stopped keeps (heeds operation List.mem_cons_self)
      exact induction first later fun later member => heeds later (List.mem_cons_of_mem _ member)

/-- Once stopped, a machine stays so until a program is loaded. -/
structure StaysStopped (machine : Machine) (fault : Fault) : Prop where
  /-- After any history that neither loads nor executes regardless of the fault, the fault is the
  same, and a step reports it and leaves the whole machine as it is. -/
  sticky : ∀ history, machine.Undisturbed history →
    (∀ operation ∈ history, operation.isCycle = false) →
    (machine.performAll history).processor.fault = some fault ∧
      ∀ now, (machine.performAll history).step now = (machine.performAll history, .error fault)
  /-- Only loads clear a fault, whatever else is done. -/
  cleared : ∀ history, (machine.performAll history).processor.fault = none →
    ¬machine.Undisturbed history
  /-- Each load does. -/
  loaded : ∀ (bytes : Array UInt8) (image : ProgramImage) (now : Int),
    (machine.load bytes now).processor.fault = none ∧
      (machine.loadImage image now).processor.fault = none ∧
      (machine.reload now).processor.fault = none

theorem staysStopped (stopped : machine.processor.fault = some fault) :
    machine.StaysStopped fault where
  sticky _ undisturbed heeds :=
    have still := fault_performAll stopped undisturbed heeds
    ⟨still, fun now => step_of_fault now still⟩
  cleared history none_left undisturbed := by
    have still := isSome_fault_performAll (by simp [stopped]) undisturbed
    simp [none_left] at still
  loaded _ _ _ := ⟨rfl, rfl, rfl⟩

/-- Faults are exact, atomic and sticky: a machine that has not stopped fails a step for two
reasons only and loses nothing by it, and a machine that has stopped stays so until a load. -/
theorem fault_exact_atomic_final (machine : Machine) :
    (machine.Reachable → machine.processor.fault = none → ∀ now, machine.FailsExactly now) ∧
      ∀ fault, machine.processor.fault = some fault → machine.StaysStopped fault := by
  constructor
  · intro reachable going now
    have bounded := stable_bounded.of_reachable bounded_create
      (fun machine bytes now _ => machine.bounded_load bytes now) reachable
    exact bounded.failsExactly going now
  · exact fun _ => staysStopped

/-- A program that returns without having been called stops, and nothing but a load helps. -/
theorem fault_exact_atomic_final_bare_return :
    let machine := (create 0 1 0).performAll [.load #[0x00, 0xEE] 0]
    let after := (machine.step 0).1.performAll [.pokeRegister 0 7, .loadFont #[], .tick 20000000]
    ∃ fault : Fault, fault.message = "call stack underflow" ∧
      (machine.step 0).2 = .error fault ∧ after.step 30000000 = (after, .error fault) := by
  intro machine after
  have reachable := (reachable_create 0 1 0).performAll [.load #[0x00, 0xEE] 0]
  have word : machine.processor.opcode.word.toNat = 0x00EE := by
    have pc : machine.processor.pc.toNat = 512 := rfl
    have memory : machine.processor.memory = .image .standard (Array.take #[0x00, 0xEE] 3584) := rfl
    have high : machine.processor.memory.read 512 = 0x00 := by simp [memory, Memory.read_image]
    have low : machine.processor.memory.read 513 = 0xEE := by simp [memory, Memory.read_image]
    rw [Processor.opcode, Opcode.toNat_word_ofBytes, pc, high, low]
    rfl
  have exactly := (fault_exact_atomic_final machine).1 reachable rfl 0
  obtain ⟨fault, fails, wording⟩ := exactly.underflow.mpr ⟨word, rfl⟩
  have stopped : (machine.step 0).1.processor.fault = some fault := by
    rw [exactly.atomic fault fails]
  have final := (fault_exact_atomic_final (machine.step 0).1).2 fault stopped
  have undisturbed : (machine.step 0).1.Undisturbed
      [.pokeRegister 0 7, .loadFont #[], .tick 20000000] := by
    simp [Undisturbed, Loads]
  have still := (final.sticky _ undisturbed (by simp [Operation.isCycle])).2 30000000
  exact ⟨fault, wording, fails, still⟩

end Machine
end Chip8
