import Chip8.Proofs.History

/-!
# The instructions that a history executes

A history is accompanied by the instructions that it executes, in order, each with the machine that
executes it and the records that are made of it.  Steps of a machine that has stopped execute
nothing, and neither do the loads and other changes from outside that come in between.
-/

namespace Chip8

/-- An instruction being executed. -/
structure Execution where
  /-- The machine that executes the instruction at its program counter. -/
  machine : Machine
  /-- What is reported of it, a fault included. -/
  records : List LogRecord
deriving DecidableEq, Repr

/-! ### The executions of a history -/

namespace Machine

/-- The timers tick before the instruction of a step. -/
def stepExecutions (machine : Machine) (now : Int) : List Execution :=
  match machine.processor.fault with
  | some _ => []
  | none => [⟨(machine.tick now).1, machine.stepRecords now⟩]

/-- The executions of a number of steps, up to the first fault. -/
def stepsExecutions (machine : Machine) (now : Int) : Nat → List Execution
  | 0 => []
  | count + 1 =>
      machine.stepExecutions now ++
        match machine.step now with
        | (machine, .ok _) => machine.stepsExecutions now count
        | (_, .error _) => []

end Machine

namespace Run

variable {σ : Type}

/-- The executions of an iteration: one, unless the device quits. -/
def iterateExecutions (run : Run σ) (device : Device σ) : List Execution :=
  if (run.polled device).2 = .quit then []
  else (run.readied device).machine.stepExecutions (run.readied device).now

/-- The executions of a run, with at most `bound` polls. -/
def completeExecutions (run : Run σ) (device : Device σ) (yield : Nat) : Nat → List Execution
  | 0 => []
  | bound + 1 =>
      match run.result with
      | some _ => []
      | none =>
          run.iterateExecutions device ++
            (run.iterate device yield).completeExecutions device yield bound

end Run

namespace Machine

/-- The executions of an operation. -/
def executions (machine : Machine) : Operation → List Execution
  | .cycle => [⟨machine, machine.cycleRecords⟩]
  | .step now => machine.stepExecutions now
  | .steps now count => machine.stepsExecutions now count
  | .run device state yield now bound =>
      (Run.begin machine state now).completeExecutions device yield bound
  | .load _ _ | .loadImage _ _ | .reload _ | .loadFont _ | .changeKey _ _ | .releaseKeys
  | .pokeRegister _ _ | .pokePixel _ _ _ | .tick _ => []

/-- The executions of a history. -/
def allExecutions (machine : Machine) : List Operation → List Execution
  | [] => []
  | operation :: history =>
      machine.executions operation ++ (machine.perform operation).allExecutions history

end Machine

/-! ### What is reported -/

namespace Machine

theorem records_stepExecutions (machine : Machine) (now : Int) :
    (machine.stepExecutions now).flatMap Execution.records = machine.stepRecords now := by
  cases stopped : machine.processor.fault with
  | some fault => simp [stepExecutions, stepRecords, stopped]
  | none => simp [stepExecutions, stopped]

theorem records_stepsExecutions (machine : Machine) (now : Int) (count : Nat) :
    (machine.stepsExecutions now count).flatMap Execution.records =
      machine.stepsRecords now count := by
  induction count generalizing machine with
  | zero => rfl
  | succ count induction =>
      rw [stepsExecutions, stepsRecords, List.flatMap_append, records_stepExecutions]
      rcases machine.step now with ⟨next, fault | directive⟩
      · rfl
      · exact congrArg (_ ++ ·) (induction next)

end Machine

namespace Run

variable {σ : Type} (run : Run σ) (device : Device σ) (yield : Nat)

theorem records_prefix_emit (outputs : List Output) :
    run.records.toList <+: (run.emit device outputs).records.toList := by
  rw [emit, Array.toList_appendList]
  exact List.prefix_append _ _

theorem records_prefix_readied :
    run.records.toList <+: (run.readied device).records.toList := by
  have polled : run.records.toList <+: (run.polled device).1.records.toList := by
    rw [Run.polled, Array.toList_appendList]
    exact List.prefix_append _ _
  rw [readied]
  split
  · rw [reload, Array.toList_appendList]
    exact polled.trans (List.prefix_append _ _)
  · exact polled

/-- Whatever else an iteration reports, it reports its step. -/
theorem records_prefix_stepAndPresent :
    run.records.toList ++ run.machine.stepRecords run.now <+:
      (run.stepAndPresent device yield).records.toList := by
  have stepped : run.records.toList ++ run.machine.stepRecords run.now =
      run.stepped.records.toList := by
    rw [Run.stepped, Array.toList_appendList]
  rw [stepped]
  cases outcome : (run.machine.step run.now).2 with
  | error fault =>
      rw [stepAndPresent_of_error device yield outcome]
      exact records_prefix_emit _ _ _
  | ok directive =>
      rw [stepAndPresent_of_ok device yield outcome]
      exact records_prefix_emit _ _ _

theorem records_sublist_iterate :
    (run.records.toList ++ (run.iterateExecutions device).flatMap Execution.records).Sublist
      (run.iterate device yield).records.toList := by
  by_cases quits : (run.polled device).2 = .quit
  · have readied := run.records_prefix_readied device
    rw [Run.readied, if_neg (by simp [quits])] at readied
    rw [iterateExecutions, if_pos quits, iterate_of_quit yield quits]
    rw [List.flatMap_nil, List.append_nil]
    exact (readied.trans (records_prefix_emit _ _ _)).sublist
  · rw [iterateExecutions, if_neg quits, iterate_of_ne_quit yield quits,
      Machine.records_stepExecutions]
    have stepped := (run.readied device).records_prefix_stepAndPresent device yield
    refine List.Sublist.trans ?_ stepped.sublist
    exact (run.records_prefix_readied device).sublist.append_right _

theorem records_sublist_complete (bound : Nat) :
    (run.records.toList ++
      (run.completeExecutions device yield bound).flatMap Execution.records).Sublist
        (run.complete device yield bound).records.toList := by
  induction bound generalizing run with
  | zero => simp [completeExecutions, complete]
  | succ bound induction =>
      cases going : run.result with
      | some result => simp [completeExecutions, complete, going]
      | none =>
          simp only [completeExecutions, complete, going, List.flatMap_append,
            ← List.append_assoc]
          refine List.Sublist.trans ?_ (induction _)
          exact (run.records_sublist_iterate device yield).append_right _

end Run

namespace Machine

/-- What an operation reports, beside its result. -/
def reported (machine : Machine) : Operation → List LogRecord
  | .load bytes _ => loadRecords bytes
  | .loadImage image _ => loadImageRecords image
  | .reload _ => machine.reloadRecords
  | .cycle => machine.cycleRecords
  | .step now => machine.stepRecords now
  | .steps now count => machine.stepsRecords now count
  | .run device state yield now bound =>
      (machine.run device state yield now bound).records.toList
  | .loadFont _ | .changeKey _ _ | .releaseKeys | .pokeRegister _ _ | .pokePixel _ _ _
  | .tick _ => []

theorem records_sublist_reported (machine : Machine) (operation : Operation) :
    ((machine.executions operation).flatMap Execution.records).Sublist
      (machine.reported operation) := by
  cases operation with
  | cycle =>
      rw [executions, List.flatMap_singleton]
      exact List.Sublist.refl _
  | step now =>
      rw [executions, records_stepExecutions]
      exact List.Sublist.refl _
  | steps now count =>
      rw [executions, records_stepsExecutions]
      exact List.Sublist.refl _
  | run device state yield now bound =>
      exact (Run.begin machine state now).records_sublist_complete device yield bound
  | _ => exact List.nil_sublist _

/-- What a history reports, beside its results. -/
def allReported (machine : Machine) : List Operation → List LogRecord
  | [] => []
  | operation :: history =>
      machine.reported operation ++ (machine.perform operation).allReported history

theorem records_sublist_allReported (machine : Machine) (history : List Operation) :
    ((machine.allExecutions history).flatMap Execution.records).Sublist
      (machine.allReported history) := by
  induction history generalizing machine with
  | nil => exact List.Sublist.refl _
  | cons operation history induction =>
      rw [allExecutions, allReported, List.flatMap_append]
      exact (machine.records_sublist_reported operation).append (induction _)

end Machine

/-! ### Laws about executions -/

namespace Machine

/-- Ticking neither moves the program counter nor writes to memory. -/
theorem cycleRecords_tick (machine : Machine) (now : Int) :
    (machine.tick now).1.cycleRecords = machine.cycleRecords := by
  rw [tick]
  split <;> rfl

/-- A property of a machine and of what it has executed so far that survives whatever happens to
the machine, one kind of change at a time.  Only an instruction adds to what was executed. -/
structure Chronicle (property : Machine → List Execution → Prop) : Prop where
  load : ∀ machine past bytes now, property machine past → property (machine.load bytes now) past
  /-- Other glyphs are put in place. -/
  font : ∀ machine past font, property machine past →
    property { machine with font, processor.memory := machine.processor.memory.withFont font } past
  keypad : ∀ machine past keypad, property machine past →
    property (machine.withKeypad keypad) past
  register : ∀ machine past number value, property machine past →
    property (machine.pokeRegister number value) past
  pixel : ∀ machine past column row isOn, property machine past →
    property (machine.pokePixel column row isOn) past
  /-- The timers may tick. -/
  tick : ∀ machine past now, property machine past → property (machine.tick now).1 past
  /-- An instruction is executed, and a failure of it may be reported. -/
  execute : ∀ machine past verdict, (∀ record ∈ verdict, record.level = .error) →
    property machine past →
      property machine.cycle.1 (past ++ [⟨machine, machine.cycleRecords ++ verdict⟩])
  /-- The clocks start afresh. -/
  clocks : ∀ machine past now, property machine past → property (machine.resetClocks now) past
  /-- What changed is shown, and the run loop waits for its clock. -/
  shown : ∀ machine past yield now, property machine past →
    property { machine.presented with clock := (machine.clock.wait yield now).1 } past
  /-- The buzzer is switched off. -/
  silenced : ∀ machine past, property machine past → property machine.silenced past

namespace Chronicle

variable {property : Machine → List Execution → Prop} {past : List Execution}

theorem step (chronicle : Chronicle property) {machine : Machine} (now : Int)
    (initial : property machine past) :
    property (machine.step now).1 (past ++ machine.stepExecutions now) := by
  cases stopped : machine.processor.fault with
  | some fault =>
      simp only [stepExecutions, step_of_fault now stopped, stopped, List.append_nil]
      exact initial
  | none =>
      simp only [stepExecutions, stepRecords, stopped, step_machine_of_none now stopped,
        ← cycleRecords_tick machine now]
      -- all that a step adds to the records of its instruction is the fault it stops with
      refine chronicle.execute _ past _ ?_ (chronicle.tick _ past now initial)
      intro record member
      split at member
      · rw [List.eq_of_mem_singleton member]
        rfl
      · exact absurd member List.not_mem_nil

theorem stepsFrom (chronicle : Chronicle property) {machine : Machine} (now : Int)
    (initial : property machine past) (directive : Directive) (count : Nat) :
    property (machine.stepsFrom now directive count).1
      (past ++ machine.stepsExecutions now count) := by
  induction count generalizing machine past directive with
  | zero =>
      rw [stepsExecutions, List.append_nil]
      exact initial
  | succ count induction =>
      have after := chronicle.step now initial
      rw [Machine.stepsFrom, stepsExecutions, ← List.append_assoc]
      rcases outcome : machine.step now with ⟨next, fault | directive⟩
      · rw [outcome] at after
        simpa only [List.append_nil] using after
      · rw [outcome] at after
        exact induction after directive

variable {σ : Type} {run : Run σ}

theorem stepAndPresent (chronicle : Chronicle property) (device : Device σ) (yield : Nat)
    (initial : property run.machine past) :
    property (run.stepAndPresent device yield).machine
      (past ++ run.machine.stepExecutions run.now) := by
  have stepped := chronicle.step run.now initial
  cases outcome : (run.machine.step run.now).2 with
  | error fault =>
      rw [Run.stepAndPresent_of_error device yield outcome]
      exact chronicle.silenced _ _ stepped
  | ok directive =>
      rw [Run.stepAndPresent_of_ok device yield outcome]
      exact chronicle.shown _ _ yield run.now stepped

theorem iterate (chronicle : Chronicle property) (device : Device σ) (yield : Nat)
    (initial : property run.machine past) :
    property (run.iterate device yield).machine (past ++ run.iterateExecutions device) := by
  have polled : property (run.polled device).1.machine past := chronicle.keypad _ past _ initial
  by_cases quits : (run.polled device).2 = .quit
  · rw [Run.iterate_of_quit yield quits, Run.iterateExecutions, if_pos quits, List.append_nil]
    exact chronicle.silenced _ past polled
  · rw [Run.iterate_of_ne_quit yield quits, Run.iterateExecutions, if_neg quits]
    apply chronicle.stepAndPresent device yield
    rw [Run.readied]
    split
    · exact chronicle.load _ past _ _ polled
    · exact polled

theorem complete (chronicle : Chronicle property) (device : Device σ) (yield : Nat)
    (initial : property run.machine past) (bound : Nat) :
    property (run.complete device yield bound).machine
      (past ++ run.completeExecutions device yield bound) := by
  induction bound generalizing run past with
  | zero =>
      rw [Run.completeExecutions, List.append_nil]
      exact initial
  | succ bound induction =>
      cases going : run.result with
      | some result =>
          simp only [Run.complete, Run.completeExecutions, going, List.append_nil]
          exact initial
      | none =>
          simp only [Run.complete, Run.completeExecutions, going, ← List.append_assoc]
          exact induction (chronicle.iterate device yield initial)

theorem perform (chronicle : Chronicle property) {machine : Machine}
    (initial : property machine past) (operation : Operation) :
    property (machine.perform operation) (past ++ machine.executions operation) := by
  have quiet (after : Machine) (kept : property after past) : property after (past ++ []) := by
    rwa [List.append_nil]
  cases operation with
  | load bytes now => exact quiet _ (chronicle.load machine past bytes now initial)
  | loadImage image now => exact quiet _ (chronicle.load machine past image.data now initial)
  | reload now => exact quiet _ (chronicle.load machine past machine.program now initial)
  | loadFont bytes =>
      apply quiet
      simp only [Machine.perform, Machine.loadFont]
      by_cases sized : bytes.size = 80
      · simpa only [dif_pos sized] using chronicle.font machine past ⟨bytes, sized⟩ initial
      · simpa only [dif_neg sized] using initial
  | changeKey key pressed => exact quiet _ (chronicle.keypad machine past _ initial)
  | releaseKeys => exact quiet _ (chronicle.keypad machine past _ initial)
  | pokeRegister number value =>
      exact quiet _ (chronicle.register machine past number value initial)
  | pokePixel column row isOn =>
      exact quiet _ (chronicle.pixel machine past column row isOn initial)
  | tick now => exact quiet _ (chronicle.tick machine past now initial)
  | cycle =>
      have executed := chronicle.execute machine past [] (by simp) initial
      rwa [List.append_nil] at executed
  | step now => exact chronicle.step now initial
  | steps now count => exact chronicle.stepsFrom now initial .next count
  | run device state yield now bound =>
      exact chronicle.complete device yield (chronicle.clocks machine past now initial) bound

theorem performAll (chronicle : Chronicle property) {machine : Machine}
    (initial : property machine past) (history : List Operation) :
    property (machine.performAll history) (past ++ machine.allExecutions history) := by
  induction history generalizing machine past with
  | nil =>
      rw [allExecutions, List.append_nil]
      exact initial
  | cons operation history induction =>
      rw [performAll_cons, allExecutions, ← List.append_assoc]
      exact induction (chronicle.perform initial operation)

/-- What holds before anything is executed holds of all that a history executes. -/
theorem whole (chronicle : Chronicle property) {machine : Machine} (initial : property machine [])
    (history : List Operation) :
    property (machine.performAll history) (machine.allExecutions history) :=
  chronicle.performAll initial history

end Chronicle
end Machine
end Chip8
