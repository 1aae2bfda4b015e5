import Chip8.Proofs.Fault
import Chip8.Proofs.Iteration
import Chip8.Proofs.Loading

/-!
# Runs and plain steps

A run whose device goes on for some polls and then quits makes the steps that a plain loop makes,
if the device leaves the keys and the time alone and the run loop does not wait.  The two stay in
lockstep up to what a run remembers of its presentation, and a fault ends both at the same step.
-/

namespace Chip8
namespace Machine

/-! ### What is presented makes no difference to a step -/

/-- The machine without what it remembers of its presentation. -/
def unshown (machine : Machine) : Machine :=
  { machine with processor := { machine.processor with buzzing := false, repaint := false } }

section Step

variable {one other : Machine}

theorem cycle_unshown (machine : Machine) :
    machine.unshown.cycle.1.unshown = machine.cycle.1.unshown ∧
      machine.unshown.cycle.2 = machine.cycle.2 := by
  let hidden : Periphery :=
    { machine.processor.periphery with buzzing := false, repaint := false }
  have law := machine.cycle_withPeriphery hidden fun _ _ => rfl
  have erased : machine.unshown.cycle = (machine.withPeriphery hidden).cycle := rfl
  have delay : (hidden.after machine.processor machine.instruction).delayTimer =
      machine.cycle.1.processor.delayTimer := by
    refine Eq.trans ?_ (congrArg Periphery.delayTimer machine.periphery_cycle).symm
    cases machine.instruction <;> rfl
  have sound : (hidden.after machine.processor machine.instruction).soundTimer =
      machine.cycle.1.processor.soundTimer := by
    refine Eq.trans ?_ (congrArg Periphery.soundTimer machine.periphery_cycle).symm
    cases machine.instruction <;> rfl
  rw [erased, law]
  constructor
  · simp only [unshown, withPeriphery, Processor.withPeriphery, delay, sound]
  · rfl

theorem unshown_cycle (same : other.unshown = one.unshown) :
    other.cycle.1.unshown = one.cycle.1.unshown ∧ other.cycle.2 = one.cycle.2 := by
  obtain ⟨after, directive⟩ := one.cycle_unshown
  obtain ⟨other_after, other_directive⟩ := other.cycle_unshown
  rw [← after, ← directive, ← other_after, ← other_directive, same]
  exact ⟨rfl, rfl⟩

theorem tick_unshown (machine : Machine) (now : Int) :
    (machine.unshown.tick now).1 = (machine.tick now).1.unshown := by
  unfold unshown
  simp only [tick]
  split <;> rfl

/-- Machines that agree on everything but their presentation make the same step. -/
theorem unshown_step (same : other.unshown = one.unshown) (now : Int) :
    (other.step now).1.unshown = (one.step now).1.unshown ∧
      (other.step now).2 = (one.step now).2 := by
  refine step_congr (fun one other same => ?_) same fun _ => ?_
  · exact congrArg (fun machine => machine.processor.fault) same
  · apply unshown_cycle
    rw [← tick_unshown, ← tick_unshown, same]

end Step

end Machine

namespace Run

variable {σ : Type}

/-! ### Devices that leave a run alone -/

/-- The answer of the device to the next poll of a run. -/
def answer (run : Run σ) (device : Device σ) : Poll σ :=
  device.poll run.device run.machine.processor.keypad

/-- The device goes on and leaves keys and time alone. -/
structure Rests (run : Run σ) (device : Device σ) : Prop where
  control : (run.answer device).control = .proceed
  keypad : (run.answer device).keypad = run.machine.processor.keypad
  elapsed : (run.answer device).elapsed = 0

/-- The device quits and leaves the keys alone. -/
structure Quits (run : Run σ) (device : Device σ) : Prop where
  control : (run.answer device).control = .quit
  keypad : (run.answer device).keypad = run.machine.processor.keypad

theorem rests_of_blank {run : Run (List Cue)} {rest : List Cue} (script : run.device = {} :: rest) :
    run.Rests Device.scripted := by
  have answer : run.answer Device.scripted =
      ⟨rest, run.machine.processor.keypad, .proceed, 0, []⟩ := by
    rw [Run.answer, script]
    rfl
  constructor <;> rw [answer]

theorem quits_of_nil {run : Run (List Cue)} (script : run.device = []) :
    run.Quits Device.scripted := by
  have answer : run.answer Device.scripted = ⟨[], run.machine.processor.keypad, .quit, 0, []⟩ := by
    rw [Run.answer, script]
    rfl
  constructor <;> rw [answer]

/-! ### Keeping step -/

/-- A run goes on after some polls, where plain steps have led to a machine. -/
structure KeepsStep (run : Run σ) (plain : Machine) (now : Int) (polls : Nat) : Prop where
  going : run.result = none
  machine : run.machine.unshown = plain.unshown
  unthrottled : run.machine.clock.interval = 0
  now : run.now = now
  polls : run.polls = polls

/-- A run has ended after some polls, where plain steps have led to a machine. -/
structure EndsAt (run : Run σ) (result : Except Fault Unit) (plain : Machine) (polls : Nat) :
    Prop where
  result : run.result = some result
  machine : run.machine.unshown = plain.unshown
  polls : run.polls = polls

namespace KeepsStep

variable {run : Run σ} {device : Device σ} {plain : Machine} {now : Int} {polls : Nat}

theorem machine_polled (keypad : (run.answer device).keypad = run.machine.processor.keypad) :
    (run.polled device).1.machine = run.machine :=
  congrArg run.machine.withKeypad keypad

theorem polled (keeps : run.KeepsStep plain now polls) (rests : run.Rests device) :
    (run.polled device).1.KeepsStep plain now (polls + 1) where
  going := keeps.going
  machine := by rw [machine_polled rests.keypad, keeps.machine]
  unthrottled := by rw [machine_polled rests.keypad, keeps.unthrottled]
  now := (congrArg (run.now + ·) rests.elapsed).trans ((Int.add_zero _).trans keeps.now)
  polls := congrArg (· + 1) keeps.polls

theorem stepped (keeps : run.KeepsStep plain now polls) :
    run.stepped.KeepsStep (plain.step now).1 now polls where
  going := keeps.going
  machine := by
    rw [Run.stepped, keeps.now]
    exact (Machine.unshown_step keeps.machine now).1
  unthrottled := by
    rw [Run.stepped, Machine.clock_step]
    exact keeps.unthrottled
  now := keeps.now
  polls := keeps.polls

theorem shown (keeps : run.KeepsStep plain now polls) (yield : Nat) :
    (run.shown device yield).KeepsStep plain now polls := by
  have waits : run.machine.clock.wait yield run.now = (run.machine.clock, run.now) := by
    rw [Clock.wait, if_pos keeps.unthrottled]
  unfold Run.shown
  rw [waits]
  exact ⟨keeps.going, keeps.machine, keeps.unthrottled, keeps.now, keeps.polls⟩

theorem finish (keeps : run.KeepsStep plain now polls) (result : Except Fault Unit) :
    (run.finish device result).EndsAt result plain polls :=
  ⟨rfl, keeps.machine, keeps.polls⟩

theorem iterate_of_proceed (control : (run.answer device).control = .proceed) (yield : Nat) :
    run.iterate device yield = (run.polled device).1.stepAndPresent device yield := by
  have answered : (run.polled device).2 = .proceed := control
  rw [iterate_of_ne_quit yield (by simp [answered]), readied, if_neg (by simp [answered])]

/-- A step that succeeds is followed by its presentation, which changes nothing that counts. -/
theorem iterate_of_ok (keeps : run.KeepsStep plain now polls) (yield : Nat)
    (rests : run.Rests device) {directive : Directive}
    (goes : (plain.step now).2 = .ok directive) :
    (run.iterate device yield).KeepsStep (plain.step now).1 now (polls + 1) := by
  have polled := keeps.polled rests
  have outcome := (Machine.unshown_step polled.machine now).2.trans goes
  rw [iterate_of_proceed rests.control yield,
    stepAndPresent_of_ok device yield (by rwa [polled.now])]
  exact polled.stepped.shown yield

theorem iterate_of_error (keeps : run.KeepsStep plain now polls) (yield : Nat)
    (rests : run.Rests device) {fault : Fault} (stops : (plain.step now).2 = .error fault) :
    (run.iterate device yield).EndsAt (.error fault) (plain.step now).1 (polls + 1) := by
  have polled := keeps.polled rests
  have outcome := (Machine.unshown_step polled.machine now).2.trans stops
  rw [iterate_of_proceed rests.control yield,
    stepAndPresent_of_error device yield (by rwa [polled.now])]
  exact polled.stepped.finish _

theorem iterate_of_quits (keeps : run.KeepsStep plain now polls) (yield : Nat)
    (quits : run.Quits device) :
    (run.iterate device yield).EndsAt (.ok ()) plain (polls + 1) := by
  rw [iterate_of_quit yield quits.control]
  refine ⟨rfl, ?_, congrArg (· + 1) keeps.polls⟩
  rw [← keeps.machine, ← machine_polled quits.keypad]
  rfl

end KeepsStep

end Run

namespace Machine

variable {σ : Type}

/-- As long as a run goes on, its device rests for a number of polls and then quits. -/
structure Idles (machine : Machine) (device : Device σ) (state : σ) (yield : Nat) (now : Int)
    (count : Nat) : Prop where
  rests : ∀ polls < count, (machine.run device state yield now polls).result = none →
    (machine.run device state yield now polls).Rests device
  quits : (machine.run device state yield now count).result = none →
    (machine.run device state yield now count).Quits device

theorem idles_replicate (machine : Machine) (yield : Nat) (now : Int) (count : Nat) :
    machine.Idles Device.scripted (List.replicate count {}) yield now count := by
  constructor
  · intro polls before going
    have script := machine.device_run_scripted yield now going
    obtain ⟨left, left_eq⟩ : ∃ left, count - polls = left + 1 := ⟨count - polls - 1, by omega⟩
    rw [List.drop_replicate, left_eq, List.replicate_succ] at script
    exact Run.rests_of_blank script
  · intro going
    have script := machine.device_run_scripted yield now going
    rw [List.drop_replicate, Nat.sub_self, List.replicate_zero] at script
    exact Run.quits_of_nil script

/-- A number of steps meet a fault at the step that follows those made. -/
structure FailsAfter (start : Machine) (now : Int) (made : Nat) (fault : Fault) : Prop where
  succeeded : ∃ directive, (start.steps now made).2 = .ok directive
  failed : (start.steps now (made + 1)).2 = .error fault

/-- Where a run stands after some polls: in step, or ended by the fault that plain steps met. -/
structure Follows (run : Run σ) (start : Machine) (now : Int) (polls : Nat) : Prop where
  keeps : ∀ directive, (start.steps now polls).2 = .ok directive →
    run.KeepsStep (start.steps now polls).1 now polls
  ends : ∀ fault, (start.steps now polls).2 = .error fault →
    ∃ made < polls, start.FailsAfter now made fault ∧
      run.EndsAt (.error fault) (start.steps now polls).1 (made + 1)

theorem follows_begin (machine : Machine) (state : σ) (now : Int)
    (unthrottled : machine.clock.interval = 0) :
    Follows (Run.begin machine state now) (machine.resetClocks now) now 0 := by
  refine ⟨fun _ _ => ⟨rfl, rfl, unthrottled, rfl, rfl⟩, fun fault stopped => ?_⟩
  exact absurd stopped (by simp [steps, stepsFrom])

theorem Follows.advance {run : Run σ} {start : Machine} {now : Int} {polls : Nat}
    (follows : Follows run start now polls) {device : Device σ} (yield : Nat)
    (rests : run.result = none → run.Rests device) :
    Follows (run.advance device yield) start now (polls + 1) := by
  cases outcome : (start.steps now polls).2 with
  | ok directive =>
      have keeps := follows.keeps directive outcome
      rw [Run.advance, if_neg (by simp [keeps.going])]
      have next := steps_succ_of_ok outcome
      constructor
      · intro directive goes
        rw [next] at goes ⊢
        exact keeps.iterate_of_ok yield (rests keeps.going) goes
      · intro fault stops
        refine ⟨polls, Nat.lt_succ_self polls, ⟨⟨directive, outcome⟩, stops⟩, ?_⟩
        rw [next] at stops ⊢
        exact keeps.iterate_of_error yield (rests keeps.going) stops
  | error fault =>
      -- The run has ended, and after a fault there are no more steps.
      have still := steps_succ_of_error outcome
      obtain ⟨_, _, _, ended⟩ := follows.ends fault outcome
      rw [Run.advance, if_pos (by simp [ended.result])]
      constructor
      · intro directive goes
        exact absurd goes (by simp [still, outcome])
      · intro fault stopped
        rw [still] at stopped ⊢
        obtain ⟨made, before, fails, ended⟩ := follows.ends fault stopped
        exact ⟨made, Nat.lt_succ_of_lt before, fails, ended⟩

variable {machine : Machine} {device : Device σ} {state : σ} {yield : Nat} {now : Int}
  {count : Nat}

theorem follows_run (unthrottled : machine.clock.interval = 0)
    (idles : machine.Idles device state yield now count) {polls : Nat} (before : polls ≤ count) :
    Follows (machine.run device state yield now polls) (machine.resetClocks now) now polls := by
  induction polls with
  | zero => exact follows_begin machine state now unthrottled
  | succ polls induction =>
      rw [run_succ]
      exact (induction (Nat.le_of_lt before)).advance yield (idles.rests polls before)

/-! ### Refinement -/

/-- A run ends as plain steps end, with the machine that they leave but for what it remembers of
its presentation.  It polls its device for every step attempted, and once more to be told to
quit. -/
structure RunsAsSteps (run : Run σ) (start : Machine) (now : Int) (count : Nat) : Prop where
  result : run.result = some ((start.steps now count).2.map fun _ => ())
  machine : run.machine.unshown = (start.steps now count).1.unshown
  polls_of_ok : ∀ directive, (start.steps now count).2 = .ok directive → run.polls = count + 1
  polls_of_error : ∀ fault, (start.steps now count).2 = .error fault →
    ∃ made < count, start.FailsAfter now made fault ∧ run.polls = made + 1

/-- The run loop refines plain steps. -/
theorem run_refines_steps (unthrottled : machine.clock.interval = 0)
    (idles : machine.Idles device state yield now count) {bound : Nat} (enough : count < bound) :
    RunsAsSteps (machine.run device state yield now bound) (machine.resetClocks now) now count := by
  have follows := follows_run unthrottled idles (Nat.le_refl count)
  have next := machine.run_succ device state yield now count
  cases outcome : ((machine.resetClocks now).steps now count).2 with
  | ok directive =>
      have keeps := follows.keeps directive outcome
      rw [Run.advance, if_neg (by simp [keeps.going])] at next
      have ends := keeps.iterate_of_quits yield (idles.quits keeps.going)
      rw [← next] at ends
      rw [machine.run_of_ended device state yield now (by simp [ends.result]) enough]
      refine ⟨?_, ends.machine, fun _ _ => ends.polls, fun fault stopped => ?_⟩
      · rw [ends.result, outcome]
        rfl
      · exact absurd stopped (by simp [outcome])
  | error fault =>
      obtain ⟨_, _, _, ends⟩ := follows.ends fault outcome
      rw [machine.run_of_ended device state yield now (by simp [ends.result]) (Nat.le_of_lt enough)]
      refine ⟨?_, ends.machine, fun directive goes => ?_, fun fault stopped => ?_⟩
      · rw [ends.result, outcome]
        rfl
      · exact absurd goes (by simp [outcome])
      · obtain ⟨made, before, fails, ends⟩ := follows.ends fault stopped
        exact ⟨made, before, fails, ends.polls⟩

/-- A program that returns without having been called ends its run as it ends plain steps. -/
theorem run_refines_steps_bare_return :
    let machine := (create 0 1 0).load #[0x00, 0xEE] 0
    let idle : List Cue := List.replicate 3 {}
    machine.clock.interval = 0 ∧ machine.Idles Device.scripted idle 1 7 3 ∧
      (machine.run Device.scripted idle 1 7 4).result = some (.error .stackUnderflow) := by
  intro machine idle
  have unthrottled : machine.clock.interval = 0 := rfl
  have idles : machine.Idles Device.scripted idle 1 7 3 := machine.idles_replicate 1 7 3
  have refines := run_refines_steps unthrottled idles (Nat.lt_succ_self 3)
  have bare : (machine.resetClocks 7).instruction = .ret :=
    (instruction_load _ _ _).trans (by decide)
  have raises : (machine.resetClocks 7).raised? = some .stackUnderflow := by
    rw [raised?, bare]
    rfl
  have stops : ((machine.resetClocks 7).steps 7 3).2 = .error .stackUnderflow := by
    rw [steps, stepsFrom, step_of_raised 7 rfl raises]
  refine ⟨unthrottled, idles, ?_⟩
  rw [refines.result, stops]
  rfl

end Machine
end Chip8
