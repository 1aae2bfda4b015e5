import Chip8.Proofs.Session

/-!
# How a session looks

The themes, the colour and the output of a terminal decide how a session looks and nothing else.
Terminals that were given the same keys and the same number of cycles answer every poll alike,
whatever becomes of what they write, and so their sessions take the same course.
-/

namespace Chip8

/-- Two settings differ only in how a session looks. -/
structure Settings.SameInput (one other : Settings) : Prop where
  machine : other.machine = one.machine
  keys : other.keys = one.keys
  maxCycles : other.maxCycles = one.maxCycles

namespace Session

/-! ### Sessions that look different -/

/-- Two sessions are at the same point of one course, whatever they have shown. -/
structure Alike (one other : Run Terminal) : Prop where
  machine : other.machine = one.machine
  now : other.now = one.now
  polls : other.polls = one.polls
  events : other.events = one.events
  result : other.result = one.result
  input : Terminal.SameInput one.device other.device

theorem alike_begin {one other : Settings} (same : one.SameInput other) (image : ProgramImage)
    (screen otherScreen : Screen) (wallClock now : Int) :
    Alike (begin one image screen wallClock now) (begin other image otherScreen wallClock now) where
  machine := by
    have machines : machine other image wallClock now = machine one image wallClock now := by
      rw [machine, machine, same.machine]
    exact congrArg (fun machine => machine.resetClocks now) machines
  now := rfl
  polls := rfl
  events := rfl
  result := rfl
  input := ⟨same.keys, same.maxCycles, rfl⟩

namespace Alike

variable {one other : Run Terminal}

theorem emit (alike : Alike one other) (outputs : List Output) :
    Alike (one.emit Terminal.device outputs) (other.emit Terminal.device outputs) where
  machine := alike.machine
  now := alike.now
  polls := alike.polls
  events := by simp only [Run.emit, alike.events, alike.polls]
  result := alike.result
  input := alike.input.of_sameScript (Plan.sameScript_emit one outputs)
    (Plan.sameScript_emit other outputs)

theorem polled (alike : Alike one other) :
    Alike (one.polled Terminal.device).1 (other.polled Terminal.device).1 ∧
      (other.polled Terminal.device).2 = (one.polled Terminal.device).2 := by
  obtain ⟨input, keypad, control⟩ := alike.input.poll one.machine.processor.keypad
  simp only [Run.polled, Terminal.device, alike.machine, alike.now, alike.polls,
    Terminal.elapsed_poll]
  exact ⟨⟨congrArg one.machine.withKeypad keypad, rfl, rfl, alike.events, alike.result, input⟩,
    control⟩

theorem stepped (alike : Alike one other) : Alike one.stepped other.stepped where
  machine := by rw [Run.stepped, Run.stepped, alike.machine, alike.now]
  now := alike.now
  polls := alike.polls
  events := alike.events
  result := alike.result
  input := alike.input

theorem shown (alike : Alike one other) (yield : Nat) :
    Alike (one.shown Terminal.device yield) (other.shown Terminal.device yield) := by
  have emitted := alike.emit one.machine.presentation
  simp only [Run.shown, alike.machine, alike.now]
  exact ⟨rfl, rfl, alike.polls, emitted.events, alike.result, emitted.input⟩

theorem finish (alike : Alike one other) (result : Except Fault Unit) :
    Alike (one.finish Terminal.device result) (other.finish Terminal.device result) := by
  have emitted := alike.emit one.machine.silencing
  simp only [Run.finish, alike.machine]
  exact ⟨rfl, alike.now, alike.polls, emitted.events, rfl, emitted.input⟩

theorem stepAndPresent (alike : Alike one other) (yield : Nat) :
    Alike (one.stepAndPresent Terminal.device yield)
      (other.stepAndPresent Terminal.device yield) := by
  cases outcome : (one.machine.step one.now).2 with
  | error fault =>
      have same := outcome
      rw [← alike.machine, ← alike.now] at same
      rw [Run.stepAndPresent_of_error Terminal.device yield outcome,
        Run.stepAndPresent_of_error Terminal.device yield same]
      exact alike.stepped.finish _
  | ok directive =>
      have same := outcome
      rw [← alike.machine, ← alike.now] at same
      rw [Run.stepAndPresent_of_ok Terminal.device yield outcome,
        Run.stepAndPresent_of_ok Terminal.device yield same]
      exact alike.stepped.shown yield

theorem advance (alike : Alike one other) (yield : Nat) :
    Alike (one.advance Terminal.device yield) (other.advance Terminal.device yield) := by
  rw [Run.advance, Run.advance, alike.result]
  split
  · exact alike
  obtain ⟨polled, control⟩ := alike.polled
  by_cases quits : (one.polled Terminal.device).2 = .quit
  · rw [Run.iterate_of_quit yield quits, Run.iterate_of_quit yield (control.trans quits)]
    exact polled.finish _
  · have stays : (other.polled Terminal.device).2 ≠ .quit := by rwa [control]
    rw [Run.iterate_of_ne_quit yield quits, Run.iterate_of_ne_quit yield stays,
      Plan.readied_eq_polled, Plan.readied_eq_polled]
    exact polled.stepAndPresent yield

theorem complete (alike : Alike one other) (yield bound : Nat) :
    Alike (one.complete Terminal.device yield bound)
      (other.complete Terminal.device yield bound) := by
  induction bound with
  | zero => exact alike
  | succ bound induction =>
      rw [Run.complete_succ, Run.complete_succ]
      exact induction.advance yield

end Alike

/-! ### Sessions that end -/

theorem counts_iterate {run : Run Terminal} {yield : Nat} (going : run.result = none)
    (goes_on : (run.iterate Terminal.device yield).result = none) :
    run.device.exhausted = false ∧
      (run.iterate Terminal.device yield).device.cycle = run.device.cycle + 1 ∧
      (run.iterate Terminal.device yield).device.maxCycles = run.device.maxCycles := by
  have succeeds := Run.succeeds_of_going going goes_on
  have unspent : run.device.exhausted = false := by
    rw [← Bool.not_eq_true]
    intro exhausted
    have control := Plan.control_polled run
    rw [exhausted, if_pos rfl] at control
    exact succeeds.2.1 control
  have plays := Terminal.plays_poll run.machine.processor.keypad unspent
  have same : Terminal.SameScript (run.device.poll run.machine.processor.keypad).device
      (run.iterate Terminal.device yield).device := by
    rw [Run.iterate_of_succeeds yield succeeds, Plan.readied_eq_polled]
    exact Plan.sameScript_emit (run.polled Terminal.device).1.stepped _
  exact ⟨unspent, same.cycle.trans plays.cycle, same.maxCycles.trans plays.maxCycles⟩

theorem complete_limited_ends {run : Run Terminal} {limit bound : Nat} (yield : Nat)
    (limited : run.device.maxCycles = some limit) (enough : limit - run.device.cycle < bound) :
    (run.complete Terminal.device yield bound).result.isSome := by
  refine Run.complete_ends (fun run => limit - run.device.cycle)
    (motive := fun run => run.device.maxCycles = some limit) ?_ run limited enough
  intro run limited going next
  obtain ⟨goes_on, cycle, maxCycles⟩ := counts_iterate going next
  have unspent : run.device.cycle < limit := by
    simpa [Terminal.exhausted, limited] using goes_on
  exact ⟨maxCycles.trans limited, by omega⟩

/-! ### Whole sessions -/

/-- A whole session, as `run`, that begins at any time. -/
def runFrom (settings : Settings) (image : ProgramImage) (screen : Screen) (wallClock now : Int)
    (yield : Nat) : Run Terminal :=
  (begin settings image screen wallClock now).complete Terminal.device yield (pollBound settings)

/-- Two sessions end alike, after the same course. -/
structure SameCourse (one other : Run Terminal) : Prop where
  result : other.result = one.result
  cycles : other.device.cycle = one.device.cycle
  now : other.now = one.now
  /-- The same pictures were drawn and the buzzer was switched alike, after the same polls. -/
  events : other.events = one.events
  machine : other.machine = one.machine

/-- How a session looks has no influence on its course, even if its output refuses what is
written. -/
theorem sameCourse_of_sameInput {one other : Settings} (same : one.SameInput other) {limit : Nat}
    (limited : one.maxCycles = some limit) (image : ProgramImage) (screen otherScreen : Screen)
    (wallClock now : Int) (yield : Nat) :
    (runFrom one image screen wallClock now yield).result.isSome ∧
      SameCourse (runFrom one image screen wallClock now yield)
        (runFrom other image otherScreen wallClock now yield) := by
  constructor
  · refine complete_limited_ends yield limited ?_
    rw [pollBound, limited]
    exact Nat.lt_succ_of_le (Nat.sub_le limit _)
  · have bound : pollBound other = pollBound one := by rw [pollBound, pollBound, same.maxCycles]
    rw [runFrom, runFrom, bound]
    have alike := (alike_begin same image screen otherScreen wallClock now).complete yield
      (pollBound one)
    exact ⟨alike.result, alike.input.cycle, alike.now, alike.events, alike.machine⟩

/-- A program that sounds and draws takes the same course in colour, on an output that refuses
everything. -/
theorem sameCourse_of_sameInput_refused :
    let image : ProgramImage := ⟨"tune", #[0x60, 0x05, 0xF0, 0x18, 0xD0, 0x05, 0x12, 0x04]⟩
    let plain : Settings := { maxCycles := some 4, keys := [⟨1, 5, true⟩] }
    let coloured : Settings :=
      { plain with theme := .mint, colour := true, themeChanges := [0, 2] }
    let closed : Screen := { remaining := some 0 }
    plain.SameInput coloured ∧ plain.maxCycles = some 4 ∧
      (runFrom plain image {} 0 7 1).result.isSome ∧
      SameCourse (runFrom plain image {} 0 7 1) (runFrom coloured image closed 0 7 1) := by
  intro image plain coloured closed
  have same : plain.SameInput coloured := ⟨rfl, rfl, rfl⟩
  have limited : plain.maxCycles = some 4 := rfl
  exact ⟨same, limited, sameCourse_of_sameInput same limited image {} closed 0 7 1⟩

end Session
end Chip8
