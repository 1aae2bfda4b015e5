import Chip8.ProgramImage
import Chip8.Proofs.Iteration

/-!
# Histories of a machine

Everything that can be asked of a machine is an operation, and a history is a list of operations
carried out one after the other, each at its own time.  A property is stable when nothing but the
load of another program can end it; a stable property outlives every history without such a load.
-/

namespace Chip8

/-- Something that can be asked of a machine.  Every operation that looks at the clock carries the
time at which it happens, so that time need not pass evenly, or forwards, between operations. -/
inductive Operation : Type 1 where
  | load (bytes : Array UInt8) (now : Int)
  | loadImage (image : ProgramImage) (now : Int)
  /-- Load the program of the last load once more. -/
  | reload (now : Int)
  /-- Use other glyphs, which is refused unless there are eighty bytes of them. -/
  | loadFont (bytes : Array UInt8)
  | changeKey (key : Key) (pressed : Bool)
  | releaseKeys
  | pokeRegister (number : Nat) (value : UInt8)
  | pokePixel (column row : Nat) (isOn : Bool)
  /-- Count the timers down if a tick is due. -/
  | tick (now : Int)
  /-- Execute one instruction, whether or not the machine has stopped. -/
  | cycle
  /-- Make one step. -/
  | step (now : Int)
  /-- Make a number of steps, up to the first fault. -/
  | steps (now : Int) (count : Nat)
  /-- Run against a device, with a bound on the polls. -/
  | run {σ : Type} (device : Device σ) (state : σ) (yield : Nat) (now : Int) (bound : Nat)

namespace Operation

/-- Whether an operation loads a program of its own. -/
def isLoad : Operation → Bool
  | load _ _ | loadImage _ _ => true
  | _ => false

end Operation

namespace Machine

/-- The machine after an operation.  A refused operation changes nothing. -/
def perform (machine : Machine) : Operation → Machine
  | .load bytes now => machine.load bytes now
  | .loadImage image now => machine.loadImage image now
  | .reload now => machine.reload now
  | .loadFont bytes =>
      match machine.loadFont bytes with
      | .ok changed => changed
      | .error _ => machine
  | .changeKey key pressed => machine.changeKey key pressed
  | .releaseKeys => machine.releaseKeys
  | .pokeRegister number value => machine.pokeRegister number value
  | .pokePixel column row isOn => machine.pokePixel column row isOn
  | .tick now => (machine.tick now).1
  | .cycle => machine.cycle.1
  | .step now => (machine.step now).1
  | .steps now count => (machine.steps now count).1
  | .run device state yield now bound => (machine.run device state yield now bound).machine

/-- The machine after a history. -/
def performAll (machine : Machine) (history : List Operation) : Machine :=
  history.foldl perform machine

@[simp] theorem performAll_nil (machine : Machine) : machine.performAll [] = machine := rfl

@[simp] theorem performAll_cons (machine : Machine) (operation : Operation)
    (history : List Operation) :
    machine.performAll (operation :: history) = (machine.perform operation).performAll history :=
  rfl

theorem performAll_append (machine : Machine) (earlier later : List Operation) :
    machine.performAll (earlier ++ later) = (machine.performAll earlier).performAll later :=
  List.foldl_append

/-- Some history of some new machine leads to the machine. -/
def Reachable (machine : Machine) : Prop :=
  ∃ interval seed now history, (create interval seed now).performAll history = machine

theorem reachable_create (interval : Nat) (seed : UInt64) (now : Int) :
    (create interval seed now).Reachable := ⟨interval, seed, now, [], rfl⟩

theorem Reachable.performAll {machine : Machine} (reachable : machine.Reachable)
    (history : List Operation) : (machine.performAll history).Reachable := by
  obtain ⟨interval, seed, now, earlier, rfl⟩ := reachable
  exact ⟨interval, seed, now, earlier ++ history, performAll_append _ _ _⟩

/-! ### Steps -/

theorem step_of_fault {machine : Machine} {fault : Fault} (now : Int)
    (stopped : machine.processor.fault = some fault) :
    machine.step now = (machine, .error fault) := by
  simp [step, stopped]

theorem step_machine_of_none {machine : Machine} (now : Int)
    (going : machine.processor.fault = none) :
    (machine.step now).1 = (machine.tick now).1.cycle.1 := by
  simp only [step, going]
  split <;> rfl

theorem step_outcome_of_none {machine : Machine} (now : Int)
    (going : machine.processor.fault = none) :
    (machine.step now).2 =
      (machine.tick now).1.cycle.1.processor.fault.elim (.ok (machine.tick now).1.cycle.2)
        .error := by
  simp only [step, going]
  split
  · rename_i fault raised
    rw [raised]
    rfl
  · rename_i goes_on
    rw [goes_on]
    rfl

/-- Machines that look the same in a view that shows the fault make the same step, if they look the
same after the instruction of the step and go on alike. -/
theorem step_congr {α : Type} {view : Machine → α}
    (shows : ∀ one other, view other = view one → other.processor.fault = one.processor.fault)
    {one other : Machine} (same : view other = view one) {now moment : Int}
    (cycle : one.processor.fault = none →
      view (other.tick moment).1.cycle.1 = view (one.tick now).1.cycle.1 ∧
        (other.tick moment).1.cycle.2 = (one.tick now).1.cycle.2) :
    view (other.step moment).1 = view (one.step now).1 ∧
      (other.step moment).2 = (one.step now).2 := by
  have fault := shows _ _ same
  cases going : one.processor.fault with
  | some stopped =>
      rw [going] at fault
      rw [step_of_fault now going, step_of_fault moment fault]
      exact ⟨same, rfl⟩
  | none =>
      rw [going] at fault
      obtain ⟨after, directive⟩ := cycle going
      rw [step_machine_of_none now going, step_machine_of_none moment fault,
        step_outcome_of_none now going, step_outcome_of_none moment fault, shows _ _ after,
        directive]
      exact ⟨after, rfl⟩

theorem clock_step (machine : Machine) (now : Int) :
    (machine.step now).1.clock = machine.clock := by
  cases going : machine.processor.fault with
  | some fault => rw [step_of_fault now going]
  | none =>
      rw [step_machine_of_none now going, cycle, tick]
      split <;> rfl

/-- What ticks and instructions keep, a step keeps. -/
theorem step_induction {motive : Machine → Prop}
    (tick : ∀ machine now, motive machine → motive (machine.tick now).1)
    (cycle : ∀ machine, motive machine → motive machine.cycle.1)
    (machine : Machine) (initial : motive machine) (now : Int) : motive (machine.step now).1 := by
  cases going : machine.processor.fault with
  | some fault =>
      rw [step_of_fault now going]
      exact initial
  | none =>
      rw [step_machine_of_none now going]
      exact cycle _ (tick _ now initial)

theorem stepsFrom_induction {motive : Machine → Prop} {now : Int}
    (step : ∀ machine, motive machine → motive (machine.step now).1)
    (machine : Machine) (initial : motive machine) (directive : Directive) (count : Nat) :
    motive (machine.stepsFrom now directive count).1 := by
  induction count generalizing machine directive with
  | zero => exact initial
  | succ count induction =>
      have after := step machine initial
      rw [stepsFrom]
      split
      · rename_i next directive outcome
        exact induction next (by rwa [outcome] at after) directive
      · rename_i next fault outcome
        rwa [outcome] at after

/-- One step more is made at the end, unless the machine has stopped. -/
theorem stepsFrom_succ (machine : Machine) (now : Int) (directive : Directive) (count : Nat) :
    machine.stepsFrom now directive (count + 1) =
      match machine.stepsFrom now directive count with
      | (after, .ok _) => after.step now
      | (after, .error fault) => (after, .error fault) := by
  induction count generalizing machine directive with
  | zero =>
      simp only [stepsFrom]
      split
      · rename_i outcome
        exact outcome.symm
      · rename_i outcome
        exact outcome.symm
  | succ count induction =>
      rw [stepsFrom, stepsFrom]
      split
      · exact induction _ _
      · rfl

theorem steps_succ_of_ok {machine : Machine} {now : Int} {count : Nat} {directive : Directive}
    (goes : (machine.steps now count).2 = .ok directive) :
    machine.steps now (count + 1) = (machine.steps now count).1.step now := by
  rw [steps, stepsFrom_succ]
  split
  · rename_i made
    rw [steps, made]
  · rename_i made
    rw [steps, made] at goes
    exact nomatch goes

theorem steps_succ_of_error {machine : Machine} {now : Int} {count : Nat} {fault : Fault}
    (stopped : (machine.steps now count).2 = .error fault) :
    machine.steps now (count + 1) = machine.steps now count := by
  rw [steps, stepsFrom_succ]
  split
  · rename_i made
    rw [steps, made] at stopped
    exact nomatch stopped
  · rename_i made
    rw [steps, made]

/-! ### Stable properties -/

/-- A property that survives whatever happens to a machine between loads, one kind of change at a
time. -/
structure Stable (property : Machine → Prop) : Prop where
  /-- The program in memory is loaded once more. -/
  reload : ∀ machine now, property machine → property (machine.reload now)
  /-- Other glyphs are put in place. -/
  font : ∀ machine font, property machine →
    property { machine with font, processor.memory := machine.processor.memory.withFont font }
  keypad : ∀ machine keypad, property machine → property (machine.withKeypad keypad)
  register : ∀ machine number value, property machine →
    property (machine.pokeRegister number value)
  pixel : ∀ machine column row isOn, property machine →
    property (machine.pokePixel column row isOn)
  /-- The timers may tick. -/
  tick : ∀ machine now, property machine → property (machine.tick now).1
  cycle : ∀ machine, property machine → property machine.cycle.1
  /-- The clocks start afresh. -/
  clocks : ∀ machine now, property machine → property (machine.resetClocks now)
  /-- What changed is shown, and the run loop waits for its clock. -/
  shown : ∀ machine yield now, property machine →
    property { machine.presented with clock := (machine.clock.wait yield now).1 }
  /-- The buzzer is switched off. -/
  silenced : ∀ machine, property machine → property machine.silenced

namespace Stable

variable {property : Machine → Prop}

theorem step (stable : Stable property) (machine : Machine) (now : Int)
    (initial : property machine) : property (machine.step now).1 :=
  step_induction stable.tick stable.cycle machine initial now

theorem run {σ : Type} (stable : Stable property) (machine : Machine) (device : Device σ)
    (state : σ) (yield : Nat) (now : Int) (bound : Nat) (initial : property machine) :
    property (machine.run device state yield now bound).machine := by
  apply Run.complete_induction (motive := fun run => property run.machine)
  · intro run _ before
    refine Run.iterate_induction (motive := fun run => property run.machine)
      ?_ ?_ ?_ ?_ ?_ run before
    · exact fun run => stable.keypad run.machine _
    · exact fun run => stable.reload run.machine run.now
    · exact fun run => stable.step run.machine run.now
    · exact fun run => stable.shown run.machine yield run.now
    · exact fun run _ => stable.silenced run.machine
  · exact stable.clocks machine now initial

theorem perform (stable : Stable property) (machine : Machine) (operation : Operation)
    (loads : operation.isLoad = true → ∀ bytes now, property (machine.load bytes now))
    (initial : property machine) : property (machine.perform operation) := by
  cases operation with
  | load bytes now => exact loads rfl bytes now
  | loadImage image now => exact loads rfl image.data now
  | reload now => exact stable.reload machine now initial
  | loadFont bytes =>
      simp only [Machine.perform, Machine.loadFont]
      by_cases sized : bytes.size = 80
      · simpa only [dif_pos sized] using stable.font machine ⟨bytes, sized⟩ initial
      · simpa only [dif_neg sized] using initial
  | changeKey key pressed => exact stable.keypad machine _ initial
  | releaseKeys => exact stable.keypad machine _ initial
  | pokeRegister number value => exact stable.register machine number value initial
  | pokePixel column row isOn => exact stable.pixel machine column row isOn initial
  | tick now => exact stable.tick machine now initial
  | cycle => exact stable.cycle machine initial
  | step now => exact stable.step machine now initial
  | steps now count =>
      exact stepsFrom_induction (fun machine => stable.step machine now) machine initial .next count
  | run device state yield now bound =>
      exact stable.run machine device state yield now bound initial

theorem performAll (stable : Stable property) (machine : Machine) (history : List Operation)
    (loads : ∀ operation ∈ history, operation.isLoad = true →
      ∀ machine bytes now, property machine → property (machine.load bytes now))
    (initial : property machine) : property (machine.performAll history) := by
  induction history generalizing machine with
  | nil => exact initial
  | cons operation history induction =>
      refine induction _ (fun later member => loads later (List.mem_cons_of_mem _ member)) ?_
      exact stable.perform machine operation
        (fun isLoad bytes now =>
          loads operation List.mem_cons_self isLoad machine bytes now initial)
        initial

/-- A stable property that new machines have and loads keep holds wherever a history leads. -/
theorem of_reachable (stable : Stable property)
    (create : ∀ interval seed now, property (create interval seed now))
    (load : ∀ machine bytes now, property machine → property (machine.load bytes now))
    {machine : Machine} (reachable : machine.Reachable) : property machine := by
  obtain ⟨interval, seed, now, history, rfl⟩ := reachable
  exact stable.performAll _ history (fun _ _ _ => load) (create interval seed now)

end Stable
end Machine
end Chip8
