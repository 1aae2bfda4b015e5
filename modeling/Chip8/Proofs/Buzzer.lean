import Chip8.Device.Script
import Chip8.Proofs.Frame
import Chip8.Proofs.History

/-!
# The buzzer during a run

A run switches the buzzer of its device by the difference between the sound timer and what the
machine remembers of the buzzer.  As long as the two are in step, the calls alternate and the last
of them switches the buzzer off.  A reload while the buzzer is on makes the machine forget that it
is on, and the device is never told: from there on the run is out of step, whatever follows.
-/

namespace Chip8

/-- The call of the buzzer in an output. -/
def Output.sound? : Output → Option Bool
  | .draw _ => none
  | .buzz on => some on

namespace Buzzer

/-- Every call differs from the one before it, and the first is the one awaited. -/
inductive Alternates : Bool → List Bool → Prop where
  | nil {awaited : Bool} : Alternates awaited []
  | cons {awaited : Bool} {sounds : List Bool} (others : Alternates (!awaited) sounds) :
      Alternates awaited (awaited :: sounds)

/-- The calls alternate, and the machine remembers the last of them. -/
structure InStep (sounds : List Bool) (buzzing : Bool) : Prop where
  /-- The buzzer goes on first. -/
  alternates : Alternates true sounds
  /-- The buzzer is on after an odd number of calls. -/
  buzzing : buzzing = decide (sounds.length % 2 = 1)

/-- The calls no longer alternate, or the buzzer is on and the machine takes it to be off. -/
def OutOfStep (sounds : List Bool) (buzzing : Bool) : Prop :=
  ¬Alternates true sounds ∨ sounds.length % 2 = 1 ∧ buzzing = false

/-- The calls that bring a buzzer from one state to another. -/
def change (buzzing target : Bool) : List Bool := if target != buzzing then [target] else []

theorem alternates_cons (awaited sound : Bool) (sounds : List Bool) :
    Alternates awaited (sound :: sounds) ↔ sound = awaited ∧ Alternates (!awaited) sounds := by
  constructor
  · rintro (_ | others)
    exact ⟨rfl, others⟩
  · rintro ⟨rfl, others⟩
    exact .cons others

theorem alternates_concat (awaited : Bool) (sounds : List Bool) (sound : Bool) :
    Alternates awaited (sounds ++ [sound]) ↔
      Alternates awaited sounds ∧ sound = (awaited ^^ decide (sounds.length % 2 = 1)) := by
  induction sounds generalizing awaited with
  | nil => simp [alternates_cons, Alternates.nil]
  | cons first sounds induction =>
      have parity : decide ((sounds.length + 1) % 2 = 1) = !decide (sounds.length % 2 = 1) := by
        rw [← decide_not, decide_eq_decide]
        omega
      simp only [List.cons_append, alternates_cons, induction, List.length_cons, parity, and_assoc,
        Bool.not_xor, Bool.xor_not]

theorem getLast?_of_alternates {sounds : List Bool} (alternates : Alternates true sounds)
    (even : sounds.length % 2 = 0) : sounds.getLast? ≠ some true := by
  rcases sounds.eq_nil_or_concat with rfl | ⟨earlier, last, rfl⟩
  · simp
  · rw [List.concat_eq_append] at alternates even ⊢
    have odd : earlier.length % 2 = 1 := by
      simp only [List.length_append, List.length_singleton] at even
      omega
    have last_eq := ((alternates_concat true earlier last).mp alternates).2
    simp [last_eq, odd]

theorem inStep_nil : InStep [] false := ⟨.nil, rfl⟩

variable {sounds : List Bool} {buzzing : Bool}

namespace InStep

theorem follow (inStep : InStep sounds buzzing) (target : Bool) :
    InStep (sounds ++ change buzzing target) target := by
  obtain ⟨alternates, buzzing_eq⟩ := inStep
  by_cases same : target = buzzing
  · have silent : change buzzing target = [] := by simp [change, same]
    rw [silent, List.append_nil]
    exact ⟨alternates, same.trans buzzing_eq⟩
  · have called : change buzzing target = [target] := by simp [change, same]
    have target_eq : target = !decide (sounds.length % 2 = 1) := by
      rw [← buzzing_eq]
      exact Bool.eq_not_of_ne same
    rw [called]
    constructor
    · exact (alternates_concat true sounds target).mpr ⟨alternates, by simpa using target_eq⟩
    · rw [target_eq, ← decide_not, decide_eq_decide, List.length_append, List.length_singleton]
      omega

/-- Forgetting a buzzer that is off does no harm, but forgetting one that is on does. -/
theorem forget (inStep : InStep sounds buzzing) :
    if buzzing then OutOfStep sounds false else InStep sounds false := by
  cases buzzing with
  | false => exact inStep
  | true => exact .inr ⟨of_decide_eq_true inStep.buzzing.symm, rfl⟩

end InStep

namespace OutOfStep

theorem follow (outOfStep : OutOfStep sounds buzzing) (target : Bool) :
    OutOfStep (sounds ++ change buzzing target) target := by
  by_cases same : target = buzzing
  · have silent : change buzzing target = [] := by simp [change, same]
    rwa [silent, List.append_nil, same]
  · have called : change buzzing target = [target] := by simp [change, same]
    rw [called]
    refine .inl fun alternates => ?_
    obtain ⟨before, target_eq⟩ := (alternates_concat true sounds target).mp alternates
    rcases outOfStep with broken | ⟨odd, off⟩
    · exact broken before
    · -- After an odd number of calls the device waits to be switched off, not on again.
      simp [odd] at target_eq
      exact same (target_eq.trans off.symm)

/-- Forgetting the buzzer does not help either. -/
theorem forget (outOfStep : OutOfStep sounds buzzing) : OutOfStep sounds false :=
  outOfStep.imp_right fun on => ⟨on.1, rfl⟩

end OutOfStep
end Buzzer

namespace Run

open Buzzer

variable {σ : Type}

/-- The calls of the buzzer so far. -/
def buzzes (run : Run σ) : List Bool :=
  run.events.toList.filterMap fun event => event.output.sound?

/-- The next poll asks for a reload while the machine takes the buzzer to be on. -/
def Mutes (run : Run σ) (device : Device σ) : Prop :=
  run.result = none ∧ (run.polled device).2 = .reload ∧ run.machine.processor.buzzing = true

/-! ### The moves of an iteration -/

theorem buzzes_emit (run : Run σ) (device : Device σ) (outputs : List Output) :
    (run.emit device outputs).buzzes = run.buzzes ++ outputs.filterMap Output.sound? :=
  run.filterMap_events_emit Output.sound? device outputs

theorem buzzes_shown (run : Run σ) (device : Device σ) (yield : Nat) :
    (run.shown device yield).buzzes =
      run.buzzes ++ change run.machine.processor.buzzing
        (run.machine.processor.soundTimer != 0) := by
  have called : run.machine.presentation.filterMap Output.sound? =
      change run.machine.processor.buzzing (run.machine.processor.soundTimer != 0) := by
    simp only [Machine.presentation, change]
    split <;> split <;> rfl
  rw [← called]
  exact run.buzzes_emit device run.machine.presentation

theorem buzzes_finish (run : Run σ) (device : Device σ) (result : Except Fault Unit) :
    (run.finish device result).buzzes =
      run.buzzes ++ change run.machine.processor.buzzing false := by
  have called : run.machine.silencing.filterMap Output.sound? =
      change run.machine.processor.buzzing false := by
    unfold Machine.silencing change
    cases run.machine.processor.buzzing <;> rfl
  rw [← called]
  exact run.buzzes_emit device run.machine.silencing

theorem buzzing_step (machine : Machine) (now : Int) :
    (machine.step now).1.processor.buzzing = machine.processor.buzzing := by
  refine Machine.step_induction
    (motive := fun after => after.processor.buzzing = machine.processor.buzzing)
    ?_ ?_ machine rfl now
  · intro before now unchanged
    rcases before.processor_tick now with still | counted
    · rwa [still]
    · rwa [counted]
  · intro before unchanged
    rw [Machine.processor_cycle]
    exact (before.processor.executed_execute _ _).buzzing.trans unchanged

/-! ### Iterations -/

theorem buzzes_readied (run : Run σ) (device : Device σ) :
    (run.readied device).buzzes = run.buzzes := by
  rw [buzzes, buzzes, events_readied]

/-- A reload makes the machine forget its buzzer, and no other answer to a poll does. -/
theorem buzzing_readied (run : Run σ) (device : Device σ) :
    (run.readied device).machine.processor.buzzing =
      if (run.polled device).2 = .reload then false else run.machine.processor.buzzing := by
  rw [readied]
  split <;> rfl

/-- What calling on every change keeps, an iteration keeps once the poll has been answered. -/
theorem iterate_follow {motive : List Bool → Bool → Prop}
    (follow : ∀ {sounds buzzing}, motive sounds buzzing →
      ∀ target, motive (sounds ++ change buzzing target) target)
    {run : Run σ} {device : Device σ} (yield : Nat)
    (ready : motive run.buzzes (run.readied device).machine.processor.buzzing) :
    motive (run.iterate device yield).buzzes
      (run.iterate device yield).machine.processor.buzzing := by
  by_cases quits : (run.polled device).2 = .quit
  · have kept : (run.readied device).machine.processor.buzzing =
        run.machine.processor.buzzing := by
      simp [buzzing_readied, quits]
    rw [kept] at ready
    rw [iterate_of_quit yield quits, buzzes_finish]
    exact follow ready false
  · rw [iterate_of_ne_quit yield quits]
    rw [← run.buzzes_readied device] at ready
    generalize run.readied device = before at ready ⊢
    have stepped : motive before.stepped.buzzes before.stepped.machine.processor.buzzing := by
      have unchanged : before.stepped.machine.processor.buzzing =
          before.machine.processor.buzzing := buzzing_step before.machine before.now
      rw [unchanged]
      exact ready
    cases outcome : (before.machine.step before.now).2 with
    | error fault =>
        rw [stepAndPresent_of_error device yield outcome, buzzes_finish]
        exact follow stepped false
    | ok directive =>
        rw [stepAndPresent_of_ok device yield outcome, buzzes_shown]
        exact follow stepped _

theorem inStep_iterate {run : Run σ} {device : Device σ} (yield : Nat)
    (going : run.result = none) (hears : ¬run.Mutes device)
    (inStep : InStep run.buzzes run.machine.processor.buzzing) :
    InStep (run.iterate device yield).buzzes
      (run.iterate device yield).machine.processor.buzzing := by
  apply iterate_follow InStep.follow
  rw [buzzing_readied]
  split
  · rename_i reloads
    have off : run.machine.processor.buzzing = false := by
      simpa [Mutes, going, reloads] using hears
    rw [off] at inStep
    exact inStep
  · exact inStep

theorem outOfStep_iterate {run : Run σ} {device : Device σ} (yield : Nat)
    (outOfStep : OutOfStep run.buzzes run.machine.processor.buzzing) :
    OutOfStep (run.iterate device yield).buzzes
      (run.iterate device yield).machine.processor.buzzing := by
  apply iterate_follow OutOfStep.follow
  rw [buzzing_readied]
  split
  · exact outOfStep.forget
  · exact outOfStep

theorem outOfStep_iterate_of_mutes {run : Run σ} {device : Device σ} (yield : Nat)
    (mutes : run.Mutes device)
    (inStep : InStep run.buzzes run.machine.processor.buzzing) :
    OutOfStep (run.iterate device yield).buzzes
      (run.iterate device yield).machine.processor.buzzing := by
  obtain ⟨-, reloads, on⟩ := mutes
  apply iterate_follow OutOfStep.follow
  rw [buzzing_readied, if_pos reloads]
  rw [on] at inStep
  exact inStep.forget

theorem buzzing_of_result {run : Run σ} {device : Device σ} {yield : Nat}
    (going : run.result = none) (ended : (run.iterate device yield).result.isSome) :
    (run.iterate device yield).machine.processor.buzzing = false := by
  by_cases quits : (run.polled device).2 = .quit
  · rw [iterate_of_quit yield quits]
    rfl
  · rw [iterate_of_ne_quit yield quits] at ended ⊢
    cases outcome : ((run.readied device).machine.step (run.readied device).now).2 with
    | error fault =>
        rw [stepAndPresent_of_error device yield outcome]
        rfl
    | ok directive =>
        rw [stepAndPresent_of_ok device yield outcome] at ended
        have still : ((run.readied device).stepped.shown device yield).result = none :=
          (run.result_readied device).trans going
        simp [still] at ended

end Run

namespace Machine

open Buzzer Run

variable {σ : Type} (machine : Machine) (device : Device σ) (state : σ) (yield : Nat) (now : Int)

/-- Until a reload comes while the buzzer is on, a run is in step. -/
theorem inStep_run (off : machine.processor.buzzing = false) (polls : Nat)
    (hears : ∀ earlier < polls,
      ¬(machine.run device state yield now earlier).Mutes device) :
    InStep (machine.run device state yield now polls).buzzes
      (machine.run device state yield now polls).machine.processor.buzzing := by
  induction polls with
  | zero =>
      have begun : (machine.run device state yield now 0).machine.processor.buzzing = false := off
      rw [begun]
      exact inStep_nil
  | succ polls induction =>
      have before := induction fun earlier earlier_lt => hears earlier (by omega)
      rw [run_succ, advance]
      split
      · exact before
      · rename_i going
        exact inStep_iterate yield (by simpa using going) (hears polls (by omega)) before

/-- After a reload while the buzzer is on, a run is out of step for good. -/
theorem outOfStep_run (off : machine.processor.buzzing = false) {polls : Nat}
    (mutes : ∃ earlier < polls, (machine.run device state yield now earlier).Mutes device) :
    OutOfStep (machine.run device state yield now polls).buzzes
      (machine.run device state yield now polls).machine.processor.buzzing := by
  induction polls with
  | zero => simp at mutes
  | succ polls induction =>
      rw [run_succ, advance]
      by_cases already : ∃ earlier < polls,
          (machine.run device state yield now earlier).Mutes device
      · split
        · exact induction already
        · exact outOfStep_iterate yield (induction already)
      · have hears : ∀ earlier < polls,
            ¬(machine.run device state yield now earlier).Mutes device :=
          fun earlier earlier_lt mutes => already ⟨earlier, earlier_lt, mutes⟩
        obtain ⟨earlier, earlier_lt, mutes⟩ := mutes
        obtain rfl : earlier = polls := by
          refine Nat.eq_of_lt_succ_of_not_lt earlier_lt fun before => ?_
          exact hears earlier before mutes
        have going : ¬(machine.run device state yield now earlier).result.isSome := by
          simp [mutes.1]
        rw [if_neg going]
        have inStep := machine.inStep_run device state yield now off earlier hears
        exact outOfStep_iterate_of_mutes yield mutes inStep

theorem buzzing_run {bound : Nat}
    (ended : (machine.run device state yield now bound).result.isSome) :
    (machine.run device state yield now bound).machine.processor.buzzing = false := by
  refine Run.complete_induction
    (motive := fun run => run.result.isSome → run.machine.processor.buzzing = false)
    ?_ (Run.begin machine state now) ?_ bound ended
  · exact fun run going _ => buzzing_of_result going
  · intro ended
    simp [Run.begin] at ended

/-- The calls of a run that has ended alternate, on first and off last, exactly when no reload
came while the buzzer was on. -/
theorem run_alternates_iff (off : machine.processor.buzzing = false) (bound : Nat)
    (ended : (machine.run device state yield now bound).result.isSome) :
    let sounds := (machine.run device state yield now bound).buzzes
    (Alternates true sounds ∧ sounds.length % 2 = 0 ∧ sounds.getLast? ≠ some true) ↔
      ∀ polls, ¬(machine.run device state yield now polls).Mutes device := by
  have silent := machine.buzzing_run device state yield now ended
  constructor
  · rintro ⟨alternates, even, -⟩ polls mutes
    by_cases enough : bound ≤ polls
    · rw [machine.run_of_ended device state yield now ended enough] at mutes
      simp [mutes.1] at ended
    · have earlier : polls < bound := Nat.lt_of_not_le enough
      have outOfStep := machine.outOfStep_run device state yield now off ⟨polls, earlier, mutes⟩
      rcases outOfStep with broken | ⟨odd, -⟩
      · exact broken alternates
      · omega
  · intro hears
    obtain ⟨alternates, parity⟩ :=
      machine.inStep_run device state yield now off bound fun polls _ => hears polls
    rw [silent, eq_comm, decide_eq_false_iff_not] at parity
    have even : (machine.run device state yield now bound).buzzes.length % 2 = 0 := by omega
    exact ⟨alternates, even, getLast?_of_alternates alternates even⟩

/-! ### Scripts -/

theorem exists_reload_of_mutes {script : List Cue} {polls : Nat}
    (mutes : (machine.run Device.scripted script yield now polls).Mutes Device.scripted) :
    ∃ cue ∈ script, cue.control = .reload := by
  obtain ⟨going, reloads, -⟩ := mutes
  have rest := machine.device_run_scripted yield now going
  generalize machine.run Device.scripted script yield now polls = run at reloads rest
  cases device_eq : run.device with
  | nil => simp [polled, Device.scripted, device_eq] at reloads
  | cons cue others =>
      rw [device_eq] at rest
      refine ⟨cue, List.mem_of_mem_drop (rest ▸ List.mem_cons_self), ?_⟩
      simpa [polled, Device.scripted, device_eq] using reloads

theorem scripted_ends {script : List Cue} {bound : Nat} (enough : script.length < bound) :
    (machine.run Device.scripted script yield now bound).result.isSome :=
  Run.complete_scripted_ends _ yield enough

end Machine

namespace Buzzer

/-- A program that sets the sound timer with its second instruction and then goes round. -/
def tune : Array UInt8 := #[0x60, 0x05, 0xF0, 0x18, 0x12, 0x04]

/-- A new machine with the program. -/
def player : Machine := (Machine.create 0 1 0).load tune 0

/-- Two steps, a reload and the end. -/
def restart : List Cue := [{}, {}, { control := .reload }]

/-- A script without a reload leaves the buzzer off. -/
theorem player_alternates :
    player.processor.buzzing = false ∧
      (player.run Device.scripted (restart.take 2) 1 0 3).result.isSome ∧
      Alternates true (player.run Device.scripted (restart.take 2) 1 0 3).buzzes := by
  have off : player.processor.buzzing = false := rfl
  have ended : (player.run Device.scripted (restart.take 2) 1 0 3).result.isSome :=
    player.scripted_ends 1 0 (by decide)
  have law := player.run_alternates_iff Device.scripted (restart.take 2) 1 0 off 3 ended
  refine ⟨off, ended, (law.mpr ?_).1⟩
  intro polls mutes
  obtain ⟨cue, member, reloads⟩ := player.exists_reload_of_mutes 1 0 mutes
  simp [restart] at member
  simp [member] at reloads

/-- The second step of the program switches the buzzer on.  The memory is any that holds the two
instructions, so that no proof looks at all its cells. -/
theorem mutes_of_read {memory : Memory}
    (first : memory.read 512 = 0x60 ∧ memory.read 513 = 0x05)
    (second : memory.read 514 = 0xF0 ∧ memory.read 515 = 0x18)
    (random : Generator) (font : Font) (program : Array UInt8) :
    (Machine.run ⟨.start memory .empty, ⟨0, 0⟩, .timer 0, random, font, program, 0⟩
      Device.scripted restart 1 0 2).Mutes Device.scripted := by
  have setByte : Opcode.decode ⟨0x6005⟩ = .setByte 0 5 := rfl
  have setSound : Opcode.decode ⟨0xF018⟩ = .setSound 0 := rfl
  rw [Run.Mutes]
  simp [Machine.run, Run.begin, Run.complete, Run.iterate, Run.polled, Run.stepAndPresent, Run.emit,
    Device.scripted, Device.reactAll, Device.react, restart, Machine.resetClocks,
    Machine.withKeypad, Machine.step, Machine.tick, Machine.cycle, Machine.presentation,
    Machine.presented, Clock.timer, Clock.reset, Clock.due, Clock.elapsed, Clock.wait,
    intervalOfFrequency, nanosecondsPerSecond, timerFrequency, Processor.start, Processor.opcode,
    Processor.execute, Processor.executeFixed, Processor.setRegister, Processor.register,
    Directive.target, Opcode.ofBytes, first, second, setByte, setSound]

theorem player_mutes :
    (player.run Device.scripted restart 1 0 2).Mutes Device.scripted := by
  apply mutes_of_read
  · simp [Memory.read_image, Machine.programCapacity, tune]
  · simp [Memory.read_image, Machine.programCapacity, tune]

/-- After the reload the run ends with the buzzer of the device still on. -/
theorem player_restart_breaks :
    player.processor.buzzing = false ∧
      (player.run Device.scripted restart 1 0 4).result.isSome ∧
      ¬(Alternates true (player.run Device.scripted restart 1 0 4).buzzes ∧
        (player.run Device.scripted restart 1 0 4).buzzes.length % 2 = 0) := by
  have off : player.processor.buzzing = false := rfl
  refine ⟨off, player.scripted_ends 1 0 (by decide), ?_⟩
  rintro ⟨alternates, even⟩
  have muted : ∃ earlier < 4, (player.run Device.scripted restart 1 0 earlier).Mutes
      Device.scripted := ⟨2, by omega, player_mutes⟩
  rcases player.outOfStep_run Device.scripted restart 1 0 off muted with broken | ⟨odd, -⟩
  · exact broken alternates
  · omega

end Buzzer
end Chip8
