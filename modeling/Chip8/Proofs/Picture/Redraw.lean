import Chip8.Proofs.Drawing.Sequence
import Chip8.Proofs.Picture
import Mathlib.Data.List.Chain

/-!
# Redraws

A device is shown the display whenever something asked for a repaint, whether or not a pixel
changed.  So a run shows a picture twice in a row exactly when an instruction paints in vain, or
when a reload ends in the picture that the run had drawn last.  An instruction paints in vain if it
clears a blank display or draws a sprite without a pixel, and in no other case.
-/

namespace Chip8

/-- Two displays differ in a pixel. -/
def Display.Differs (before after : Display) : Prop := ∃ pixel, after.get pixel ≠ before.get pixel

theorem Display.differs_iff {before after : Display} : before.Differs after ↔ after ≠ before := by
  constructor
  · rintro ⟨pixel, apart⟩ rfl
    exact apart rfl
  · intro apart
    by_contra same
    apply apart
    apply Display.eq_of_get
    intro column row
    by_contra pixel
    exact same ⟨_, pixel⟩

/-! ### Painting in vain -/

theorem Display.toggleAll_eq_self_iff {display : Display} {pixels : List Pixel}
    (distinct : pixels.Nodup) : (display.toggleAll pixels).1 = display ↔ pixels = [] := by
  constructor
  · intro same
    rw [List.eq_nil_iff_forall_not_mem]
    intro pixel member
    have toggled : (display.toggleAll pixels).1.get pixel = _ := get_toggleAll distinct pixel
    rw [same, List.contains_iff_mem.mpr member] at toggled
    cases on : display.get pixel <;> simp [on] at toggled
  · rintro rfl
    rfl

theorem Sprite.pixels_eq_nil_iff {memory : Memory} {sprite : Sprite} {column row : Nat} :
    sprite.pixels memory column row = [] ↔
      ∀ index < sprite.rows, memory.read (sprite.address + index) = 0 := by
  simp only [List.eq_nil_iff_forall_not_mem, Sprite.mem_pixels_iff]
  constructor
  · intro none_covered index index_lt
    apply UInt8.toNat_inj.mp
    apply Nat.eq_of_testBit_eq
    intro place
    rw [UInt8.toNat_zero, Nat.zero_testBit]
    by_cases within : place < 8
    · apply Bool.eq_false_of_not_eq_true
      intro set
      have bit : sprite.bit memory index (7 - place) = true := by
        rwa [Sprite.bit, Nat.sub_sub_self (Nat.le_of_lt_succ within)]
      exact none_covered _ ⟨index, index_lt, 7 - place, by omega, bit, rfl⟩
    · have small := (memory.read (sprite.address + index)).toNat_lt
      have enough : 2 ^ 8 ≤ 2 ^ place := Nat.pow_le_pow_right (by omega) (by omega)
      exact Nat.testBit_lt_two_pow (small.trans_le enough)
  · rintro empty pixel ⟨index, index_lt, offset, -, bit, -⟩
    simp [Sprite.bit, empty index index_lt] at bit

namespace Processor

variable (processor : Processor)

/-- An instruction paints, but all the pixels stay as they are. -/
def PaintsInVain : Instruction → Prop
  | .clear => processor.display = .blank
  | .draw _ _ rows => ∀ row < rows.val, processor.memory.read (processor.index.toNat + row) = 0
  | _ => False

/-- The cases in which an instruction paints in vain. -/
theorem paintsInVain_iff (random : Generator) (instruction : Instruction) :
    processor.PaintsInVain instruction ↔ instruction.paints = true ∧
      (processor.execute random instruction).processor.display = processor.display := by
  cases instruction with
  | clear =>
      have cleared : (processor.execute random .clear).processor.display = .blank := rfl
      rw [cleared, PaintsInVain, Instruction.paints, eq_comm]
      simp
  | draw x y rows =>
      have drawn : (processor.execute random (.draw x y rows)).processor.display =
          (processor.display.toggleAll (processor.spritePixels x y rows)).1 := rfl
      rw [drawn, Display.toggleAll_eq_self_iff (processor.nodup_spritePixels x y rows),
        spritePixels, Sprite.pixels_eq_nil_iff]
      simp [PaintsInVain, Instruction.paints]
  | _ => simp [PaintsInVain, Instruction.paints]

end Processor

/-- When a step that succeeds asks for a repaint of the display as it was. -/
theorem Machine.paintsInVain_iff_step {machine : Machine} {now : Int} {directive : Directive}
    (goes : (machine.step now).2 = .ok directive) :
    machine.processor.PaintsInVain machine.instruction ↔ machine.instruction.paints = true ∧
      (machine.step now).1.processor.display = machine.processor.display := by
  have ticked : ((machine.tick now).1.processor.PaintsInVain machine.instruction ↔
        machine.processor.PaintsInVain machine.instruction) ∧
      (machine.tick now).1.processor.display = machine.processor.display := by
    rcases machine.processor_tick now with still | counted
    · rw [still]
      exact ⟨Iff.rfl, rfl⟩
    · rw [counted]
      exact ⟨Iff.rfl, rfl⟩
  have painted := (machine.tick now).1.processor.paintsInVain_iff (machine.tick now).1.random
    machine.instruction
  have display : (machine.step now).1.processor.display =
      ((machine.tick now).1.processor.execute (machine.tick now).1.random
        machine.instruction).processor.display := by
    rw [step_machine_of_none now (fault_of_ok goes), processor_cycle, effect, instruction_tick]
  rw [← ticked.1, painted, ← display, ticked.2]

namespace Run

variable {σ : Type}

/-- The next iteration draws the picture once more that was drawn last.  Either the instruction
paints in vain, or the program has been loaded again and its first instruction leaves that
picture. -/
def Repeats (run : Run σ) (device : Device σ) : Prop :=
  run.Succeeds device ∧ run.pictures ≠ [] ∧
    if (run.polled device).2 = .reload then
      (run.readied device).stepped.machine.processor.display = run.machine.processor.display
    else run.machine.processor.PaintsInVain run.machine.instruction

/-- As long as a run goes on, it has nothing left to draw, and its picture is the one drawn last. -/
def Settled (run : Run σ) : Prop := run.result = none → run.pictures ≠ [] →
  run.machine.processor.repaint = false ∧ run.Fresh

variable {run : Run σ} {device : Device σ}

theorem pictures_readied (run : Run σ) (device : Device σ) :
    (run.readied device).pictures = run.pictures := by
  rw [pictures, pictures, events_readied]

theorem pictures_iterate_of_not_succeeds (yield : Nat) (going : run.result = none)
    (fails : ¬run.Succeeds device) : (run.iterate device yield).pictures = run.pictures := by
  by_cases quits : (run.polled device).2 = .quit
  · rw [iterate_of_quit yield quits, pictures_finish]
    rfl
  · rw [iterate_of_ne_quit yield quits]
    cases outcome : ((run.readied device).machine.step (run.readied device).now).2 with
    | error fault =>
        rw [stepAndPresent_of_error device yield outcome, pictures_finish]
        exact run.pictures_readied device
    | ok directive => exact absurd ⟨going, quits, directive, outcome⟩ fails

theorem pictures_iterate_of_succeeds (yield : Nat) (succeeds : run.Succeeds device) :
    (run.iterate device yield).pictures =
      run.pictures ++
        if (run.readied device).stepped.machine.processor.repaint then
          [(run.readied device).stepped.machine.processor.display]
        else [] := by
  rw [iterate_of_succeeds yield succeeds, pictures_shown]
  congr 1
  exact run.pictures_readied device

/-- After a first picture, an iteration draws the same picture exactly when it repeats it. -/
theorem Settled.repeats_iff (settled : run.Settled) (succeeds : run.Succeeds device)
    (drawn : run.pictures ≠ []) :
    run.Repeats device ↔ (run.readied device).stepped.machine.processor.repaint = true ∧
      (run.readied device).stepped.machine.processor.display = run.machine.processor.display := by
  obtain ⟨current, -⟩ := settled succeeds.1 drawn
  obtain ⟨directive, goes⟩ := succeeds.2.2
  have due : (run.readied device).stepped.machine.processor.repaint = _ := Machine.repaint_step goes
  have vain := Machine.paintsInVain_iff_step goes
  have repeats : run.Repeats device ↔ _ := and_iff_right succeeds
  rw [repeats, and_iff_right drawn, due]
  split
  · rename_i reloads
    have asked : (run.readied device).machine.processor.repaint = true := by
      rw [readied, if_pos reloads]
      rfl
    simp [asked]
  · rename_i stays
    have ready : run.readied device = (run.polled device).1 := if_neg stays
    rw [ready] at vain ⊢
    have still : (run.polled device).1.machine.processor.repaint = false := current
    rw [still, Bool.false_or]
    exact vain

theorem Settled.iterate (settled : run.Settled) (device : Device σ) (yield : Nat)
    (going : run.result = none) : (run.iterate device yield).Settled := by
  intro goes_on drawn
  have succeeds := succeeds_of_going going goes_on
  have current : (run.iterate device yield).machine.processor.repaint = false := by
    rw [iterate_of_succeeds yield succeeds]
    rfl
  refine ⟨current, ?_⟩
  by_cases before : run.pictures = []
  · have pictures := pictures_iterate_of_succeeds yield succeeds
    rw [before, List.nil_append] at pictures
    split at pictures
    · rw [Fresh, pictures, iterate_of_succeeds yield succeeds]
      rfl
    · exact absurd pictures drawn
  · obtain ⟨-, fresh⟩ := settled going before
    have upToDate : run.UpToDate := fun _ => fresh
    exact upToDate.fresh_iterate yield succeeds

theorem Settled.differ_iterate_iff (settled : run.Settled) (device : Device σ) (yield : Nat)
    (going : run.result = none) :
    (run.iterate device yield).pictures.IsChain Display.Differs ↔
      run.pictures.IsChain Display.Differs ∧ ¬run.Repeats device := by
  by_cases succeeds : run.Succeeds device
  · rw [pictures_iterate_of_succeeds yield succeeds]
    by_cases first : run.pictures = []
    · have never : ¬run.Repeats device := fun repeats => repeats.2.1 first
      rw [first, List.nil_append, and_iff_left never]
      split <;> simp
    · obtain ⟨-, fresh⟩ := settled going first
      rw [Fresh] at fresh
      rw [settled.repeats_iff succeeds first, List.isChain_append, fresh]
      cases (run.readied device).stepped.machine.processor.repaint with
      | true => simp [Display.differs_iff]
      | false => simp
  · rw [pictures_iterate_of_not_succeeds yield going succeeds]
    have never : ¬run.Repeats device := fun repeats => succeeds repeats.1
    rw [and_iff_left never]

end Run

namespace Machine

open Run

variable {σ : Type} (machine : Machine) (device : Device σ) (state : σ) (yield : Nat) (now : Int)

theorem settled_run (polls : Nat) : (machine.run device state yield now polls).Settled := by
  refine complete_induction (motive := Settled) ?_ (Run.begin machine state now) ?_ polls
  · exact fun run going settled => settled.iterate device yield going
  · exact fun _ drawn => absurd rfl drawn

/-- No two pictures that a run draws one after the other are the same, exactly when no iteration
repeats a picture. -/
theorem run_differ_iff (polls : Nat) :
    (machine.run device state yield now polls).pictures.IsChain Display.Differs ↔
      ∀ earlier < polls, ¬(machine.run device state yield now earlier).Repeats device := by
  induction polls with
  | zero => exact iff_of_true List.isChain_nil nofun
  | succ polls induction =>
      rw [Nat.forall_lt_succ_right]
      refine Iff.trans ?_ (and_congr_left' induction)
      by_cases going : (machine.run device state yield now polls).result = none
      · rw [machine.run_succ_of_going device state yield now going]
        have settled := machine.settled_run device state yield now polls
        exact settled.differ_iterate_iff device yield going
      · have ended := Option.isSome_iff_ne_none.mpr going
        have never : ¬(machine.run device state yield now polls).Repeats device :=
          fun repeats => going repeats.1.1
        rw [machine.run_of_ended device state yield now ended (Nat.le_succ polls),
          and_iff_left never]

/-- A run in which a display is cleared twice in a row.  The memory is any that holds the two
instructions, so that the proof does not look at all its cells. -/
theorem pictures_of_read {memory : Memory}
    (first : memory.read 512 = 0x00 ∧ memory.read 513 = 0xE0)
    (second : memory.read 514 = 0x00 ∧ memory.read 515 = 0xE0)
    (random : Generator) (font : Font) (program : Array UInt8) :
    (Machine.run ⟨.start memory .empty, ⟨0, 0⟩, .timer 0, random, font, program, 0⟩
      Device.scripted [{}, {}] 1 0 3).pictures = [.blank, .blank] := by
  have clear : Opcode.decode ⟨0x00E0⟩ = .clear := rfl
  rw [Run.pictures]
  simp [Machine.run, Run.begin, Run.complete, Run.iterate, Run.polled, Run.stepAndPresent, Run.emit,
    Run.finish, Device.scripted, Device.reactAll, Device.react, Machine.resetClocks,
    Machine.withKeypad, Machine.step, Machine.tick, Machine.cycle, Machine.presentation,
    Machine.presented, Machine.silencing, Clock.timer, Clock.reset, Clock.due, Clock.elapsed,
    Clock.wait, intervalOfFrequency, nanosecondsPerSecond, timerFrequency, Processor.start,
    Processor.opcode, Processor.execute, Processor.executeFixed, Processor.blankDisplay,
    Directive.target, Opcode.ofBytes, Output.picture?, first, second, clear]

/-- A new machine with a program that clears the display twice. -/
def eraser : Machine := (create 0 1 0).load #[0x00, 0xE0, 0x00, 0xE0] 0

/-- Two instructions that clear the display show the same picture twice. -/
theorem run_differ_fails :
    (eraser.run Device.scripted [{}, {}] 1 0 3).result.isSome ∧
      ¬(eraser.run Device.scripted [{}, {}] 1 0 3).pictures.IsChain Display.Differs := by
  have pictures : (eraser.run Device.scripted [{}, {}] 1 0 3).pictures = [.blank, .blank] := by
    apply pictures_of_read
    · simp [Memory.read_image, Machine.programCapacity]
    · simp [Memory.read_image, Machine.programCapacity]
  refine ⟨Run.complete_scripted_ends _ 1 (Nat.lt_succ_self 2), ?_⟩
  rw [pictures, List.isChain_pair, Display.differs_iff]
  exact not_not_intro rfl

end Machine
end Chip8
