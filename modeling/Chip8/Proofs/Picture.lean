import Chip8.Proofs.Fault
import Chip8.Proofs.Iteration
import Chip8.Proofs.Loading

/-!
# The picture during a run

Whatever changes the display asks for a repaint: the instructions that paint do, and so does a
load.  So as long as no repaint is due, the picture that a run drew last is the display, and a
presentation draws whenever one is due.  A run that begins with a repaint due never leaves its
device with a stale picture.
-/

namespace Chip8

namespace Instruction

/-- Whether an instruction paints the picture. -/
def paints : Instruction → Bool
  | clear => true
  | draw _ _ _ => true
  | _ => false

end Instruction

/-! ### Painting -/

namespace Processor

variable (processor : Processor) (random : Generator)

/-- Exactly the instructions that paint ask for a repaint. -/
theorem repaint_execute (instruction : Instruction) :
    (processor.execute random instruction).processor.repaint =
      (processor.repaint || instruction.paints) := by
  refine (congrArg Periphery.repaint (processor.periphery_execute random instruction)).trans ?_
  cases instruction with
  | clear | draw x y rows => exact (Bool.or_true _).symm
  | _ => exact (Bool.or_false _).symm

theorem display_execute {instruction : Instruction} (leaves : instruction.paints = false) :
    (processor.execute random instruction).processor.display = processor.display := by
  cases instruction with
  | clear | draw x y rows => simp [Instruction.paints] at leaves
  | ret =>
      obtain ⟨sp, fault, after⟩ := processor.exists_execute_ret random
      rw [after]
  | call address =>
      obtain ⟨sp, stack, fault, after⟩ := processor.exists_execute_call random address
      rw [after]
  | awaitKey x =>
      simp only [execute, executeFixed]
      cases processor.keypad.lowest? <;> rfl
  | _ => rfl

end Processor

namespace Machine

variable {machine : Machine} {now : Int}

theorem repaint_step {directive : Directive} (goes : (machine.step now).2 = .ok directive) :
    (machine.step now).1.processor.repaint =
      (machine.processor.repaint || machine.instruction.paints) := by
  have ticked : (machine.tick now).1.processor.repaint = machine.processor.repaint := by
    rw [tick]
    split <;> rfl
  rw [step_machine_of_none now (fault_of_ok goes), processor_cycle]
  refine (Processor.repaint_execute _ _ _).trans ?_
  rw [ticked, instruction_tick]

/-- A step after which no repaint is due has left the display alone. -/
theorem display_step (current : (machine.step now).1.processor.repaint = false) :
    machine.processor.repaint = false ∧
      (machine.step now).1.processor.display = machine.processor.display := by
  revert current
  refine step_induction
    (motive := fun after => after.processor.repaint = false →
      machine.processor.repaint = false ∧ after.processor.display = machine.processor.display)
    ?_ ?_ machine (fun current => ⟨current, rfl⟩) now
  · intro before moment kept
    rcases before.processor_tick moment with still | counted
    · rwa [still]
    · rwa [counted]
  · intro before kept current
    have painted : before.cycle.1.processor.repaint = _ :=
      before.processor.repaint_execute before.random before.instruction
    rw [painted, Bool.or_eq_false_iff] at current
    obtain ⟨still, leaves⟩ := current
    obtain ⟨first, display⟩ := kept still
    exact ⟨first, (before.processor.display_execute before.random leaves).trans display⟩

end Machine

/-! ### Drawing -/

/-- The picture in an output. -/
def Output.picture? : Output → Option Display
  | .draw picture => some picture
  | .buzz _ => none

namespace Run

variable {σ : Type}

/-- The pictures drawn so far. -/
def pictures (run : Run σ) : List Display :=
  run.events.toList.filterMap fun event => event.output.picture?

/-- The picture drawn last is the display. -/
def Fresh (run : Run σ) : Prop :=
  run.pictures.getLast? = some run.machine.processor.display

/-- The picture drawn last is the display, unless a repaint is due. -/
def UpToDate (run : Run σ) : Prop := run.machine.processor.repaint = false → run.Fresh

theorem pictures_shown (run : Run σ) (device : Device σ) (yield : Nat) :
    (run.shown device yield).pictures =
      run.pictures ++
        if run.machine.processor.repaint then [run.machine.processor.display] else [] := by
  have drawn : run.machine.presentation.filterMap Output.picture? =
      if run.machine.processor.repaint then [run.machine.processor.display] else [] := by
    simp only [Machine.presentation]
    split <;> split <;> rfl
  rw [← drawn]
  exact run.filterMap_events_emit Output.picture? device run.machine.presentation

theorem pictures_finish (run : Run σ) (device : Device σ) (result : Except Fault Unit) :
    (run.finish device result).pictures = run.pictures := by
  have drawn : run.machine.silencing.filterMap Output.picture? = [] := by
    rw [Machine.silencing]
    split <;> rfl
  refine (run.filterMap_events_emit Output.picture? device run.machine.silencing).trans ?_
  rw [drawn, List.append_nil]
  rfl

theorem upToDate_reload (run : Run σ) : run.reload.UpToDate := by
  intro current
  have due : run.reload.machine.processor.repaint = true := rfl
  simp [due] at current

theorem UpToDate.stepped {run : Run σ} (upToDate : run.UpToDate) : run.stepped.UpToDate := by
  intro current
  obtain ⟨before, display⟩ := Machine.display_step current
  have fresh := upToDate before
  rw [Fresh, ← display] at fresh
  exact fresh

theorem UpToDate.shown {run : Run σ} (upToDate : run.UpToDate) (device : Device σ) (yield : Nat) :
    (run.shown device yield).Fresh := by
  rw [Fresh, pictures_shown]
  cases due : run.machine.processor.repaint with
  | true =>
      rw [if_pos rfl, List.getLast?_concat]
      rfl
  | false =>
      rw [if_neg Bool.false_ne_true, List.append_nil]
      exact upToDate due

theorem Fresh.finish {run : Run σ} (fresh : run.Fresh) (device : Device σ)
    (result : Except Fault Unit) : (run.finish device result).Fresh := by
  rw [Fresh, pictures_finish]
  exact fresh

theorem UpToDate.iterate {run : Run σ} (upToDate : run.UpToDate) (device : Device σ)
    (yield : Nat) : (run.iterate device yield).UpToDate := by
  refine iterate_induction (motive := UpToDate) ?_ ?_ ?_ ?_ ?_ run upToDate
  · exact fun _ before => before
  · exact fun _ _ => upToDate_reload _
  · exact fun _ before => before.stepped
  · exact fun _ before _ => before.shown device yield
  · exact fun _ result before current => (before current).finish device result

theorem UpToDate.readied {run : Run σ} (upToDate : run.UpToDate) (device : Device σ) :
    (run.readied device).UpToDate := by
  rw [Run.readied]
  split
  · exact upToDate_reload _
  · exact upToDate

theorem UpToDate.fresh_iterate {run : Run σ} {device : Device σ} (upToDate : run.UpToDate)
    (yield : Nat) (succeeds : run.Succeeds device) : (run.iterate device yield).Fresh := by
  rw [iterate_of_succeeds yield succeeds]
  exact (upToDate.readied device).stepped.shown device yield

/-- Where a run stands with its picture. -/
structure Presents (run : Run σ) : Prop where
  upToDate : run.UpToDate
  /-- After an iteration the display has been drawn. -/
  going : run.result = none → 0 < run.polls → run.Fresh
  /-- The poll that quits comes after the last iteration. -/
  quit : run.result = some (.ok ()) → 1 < run.polls → run.Fresh

theorem Presents.iterate {run : Run σ} (presents : run.Presents) (device : Device σ) (yield : Nat)
    (going : run.result = none) : (run.iterate device yield).Presents := by
  refine ⟨presents.upToDate.iterate device yield, ?_, ?_⟩
  · intro goes_on _
    exact presents.upToDate.fresh_iterate yield (succeeds_of_going going goes_on)
  · intro ended polls
    obtain ⟨-, iterated⟩ := iterate_of_ok going ended
    rw [iterated] at polls ⊢
    have polled : (run.polled device).1.Fresh :=
      presents.going going (Nat.lt_of_succ_lt_succ polls)
    exact polled.finish device (.ok ())

end Run

namespace Machine

open Run

variable {σ : Type} (machine : Machine) (device : Device σ) (state : σ) (yield : Nat) (now : Int)

theorem presents_run (due : machine.processor.repaint = true) (bound : Nat) :
    (machine.run device state yield now bound).Presents := by
  refine complete_induction (motive := Presents) ?_ (Run.begin machine state now) ?_ bound
  · exact fun run going presents => presents.iterate device yield going
  · refine ⟨?_, fun _ polled => ?_, nofun⟩
    · intro current
      exact absurd current (by simp [Run.begin, resetClocks, due])
    · exact absurd polled (Nat.lt_irrefl 0)

/-- A run that begins with a repaint due has drawn its display at the end of every iteration whose
step succeeds, and when it is told to quit after that. -/
theorem never_stale (due : machine.processor.repaint = true) :
    (∀ polls, (machine.run device state yield now polls).Succeeds device →
      (machine.run device state yield now (polls + 1)).Fresh) ∧
    ∀ bound, (machine.run device state yield now bound).result = some (.ok ()) →
      1 < (machine.run device state yield now bound).polls →
        (machine.run device state yield now bound).Fresh := by
  constructor
  · intro polls succeeds
    rw [run_succ, advance, if_neg (by simp [succeeds.1])]
    have presents := machine.presents_run device state yield now due polls
    exact presents.upToDate.fresh_iterate yield succeeds
  · exact fun bound => (machine.presents_run device state yield now due bound).quit

/-- A machine that is told to reload before its first step shows its blank display after it. -/
theorem never_stale_reload :
    let machine := (create 0 1 0).load #[] 0
    machine.processor.repaint = true ∧
      (machine.run Device.scripted [{ control := .reload }] 1 0 1).Fresh := by
  intro machine
  have due : machine.processor.repaint = true := rfl
  let before := machine.run Device.scripted [{ control := .reload }] 1 0 0
  have reloaded : (before.readied Device.scripted).machine = (machine.resetClocks 0).load #[] 0 :=
    rfl
  have idle : (before.readied Device.scripted).machine.instruction = .system 0 := by
    rw [reloaded, instruction, instruction_load]
    rfl
  have succeeds : before.Succeeds Device.scripted := by
    have reloads : (before.polled Device.scripted).2 = .reload := rfl
    refine ⟨rfl, by simp [reloads], .next, ?_⟩
    rw [step_of_system _ rfl idle]
  exact ⟨due, (machine.never_stale Device.scripted _ 1 0 due).1 0 succeeds⟩

end Machine
end Chip8
