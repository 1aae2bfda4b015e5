import Chip8.Device.Script
import Chip8.Run

/-!
# Iterations of a run

An iteration is put together from five moves: poll the device, load the program again, make a
step, show what changed, end the run.  The equations of this file say which moves follow which,
and what all five of them keep is kept by every run.
-/

namespace Chip8
namespace Run

variable {σ : Type}

/-- The run after a poll, with the program loaded again where the device asked for it. -/
def readied (run : Run σ) (device : Device σ) : Run σ :=
  if (run.polled device).2 = .reload then (run.polled device).1.reload
  else (run.polled device).1

/-- The run after the step of an iteration. -/
def stepped (run : Run σ) : Run σ :=
  { run with
    machine := (run.machine.step run.now).1
    records := run.records ++ run.machine.stepRecords run.now }

/-- The run after a presentation and the wait that follows it. -/
def shown (run : Run σ) (device : Device σ) (yield : Nat) : Run σ :=
  let emitted := run.emit device run.machine.presentation
  let waited := run.machine.clock.wait yield run.now
  { emitted with machine := { run.machine.presented with clock := waited.1 }, now := waited.2 }

/-- The run after one more iteration, unless it has ended. -/
def advance (run : Run σ) (device : Device σ) (yield : Nat) : Run σ :=
  if run.result.isSome then run else run.iterate device yield

/-! ### Which moves follow which -/

theorem iterate_of_quit {run : Run σ} {device : Device σ} (yield : Nat)
    (quits : (run.polled device).2 = .quit) :
    run.iterate device yield = (run.polled device).1.finish device (.ok ()) := by
  rw [iterate]
  split <;> simp_all

theorem iterate_of_ne_quit {run : Run σ} {device : Device σ} (yield : Nat)
    (stays : (run.polled device).2 ≠ .quit) :
    run.iterate device yield = (run.readied device).stepAndPresent device yield := by
  unfold iterate readied
  split <;> simp_all

theorem result_readied (run : Run σ) (device : Device σ) :
    (run.readied device).result = run.result := by
  rw [readied]
  split <;> rfl

theorem events_readied (run : Run σ) (device : Device σ) :
    (run.readied device).events = run.events := by
  rw [readied]
  split <;> rfl

theorem polls_readied (run : Run σ) (device : Device σ) :
    (run.readied device).polls = run.polls + 1 := by
  rw [readied]
  split <;> rfl

theorem stepAndPresent_of_error {run : Run σ} {fault : Fault} (device : Device σ) (yield : Nat)
    (stops : (run.machine.step run.now).2 = .error fault) :
    run.stepAndPresent device yield = run.stepped.finish device (.error fault) := by
  simp only [stepAndPresent, stops]
  rfl

theorem stepAndPresent_of_ok {run : Run σ} {directive : Directive} (device : Device σ)
    (yield : Nat) (goes : (run.machine.step run.now).2 = .ok directive) :
    run.stepAndPresent device yield = run.stepped.shown device yield := by
  simp only [stepAndPresent, goes]
  rfl

/-- The next iteration makes a step that succeeds. -/
def Succeeds (run : Run σ) (device : Device σ) : Prop :=
  run.result = none ∧ (run.polled device).2 ≠ .quit ∧
    ∃ directive, ((run.readied device).machine.step (run.readied device).now).2 = .ok directive

theorem iterate_of_succeeds {run : Run σ} {device : Device σ} (yield : Nat)
    (succeeds : run.Succeeds device) :
    run.iterate device yield = (run.readied device).stepped.shown device yield := by
  obtain ⟨-, stays, directive, goes⟩ := succeeds
  rw [iterate_of_ne_quit yield stays, stepAndPresent_of_ok device yield goes]

/-- A run that goes on has made a step that succeeded. -/
theorem succeeds_of_going {run : Run σ} {device : Device σ} {yield : Nat}
    (going : run.result = none) (goes_on : (run.iterate device yield).result = none) :
    run.Succeeds device := by
  by_cases quits : (run.polled device).2 = .quit
  · rw [iterate_of_quit yield quits] at goes_on
    exact nomatch goes_on
  · rw [iterate_of_ne_quit yield quits] at goes_on
    cases outcome : ((run.readied device).machine.step (run.readied device).now).2 with
    | error fault =>
        rw [stepAndPresent_of_error device yield outcome] at goes_on
        exact nomatch goes_on
    | ok directive => exact ⟨going, quits, directive, outcome⟩

/-- Only a device that quits ends a run well. -/
theorem iterate_of_ok {run : Run σ} {device : Device σ} {yield : Nat}
    (going : run.result = none) (ended : (run.iterate device yield).result = some (.ok ())) :
    (run.polled device).2 = .quit ∧
      run.iterate device yield = (run.polled device).1.finish device (.ok ()) := by
  by_cases quits : (run.polled device).2 = .quit
  · exact ⟨quits, iterate_of_quit yield quits⟩
  · rw [iterate_of_ne_quit yield quits] at ended
    cases outcome : ((run.readied device).machine.step (run.readied device).now).2 with
    | error fault =>
        rw [stepAndPresent_of_error device yield outcome] at ended
        exact nomatch ended
    | ok directive =>
        rw [stepAndPresent_of_ok device yield outcome] at ended
        have still : ((run.readied device).stepped.shown device yield).result = none :=
          (run.result_readied device).trans going
        rw [still] at ended
        exact nomatch ended

/-- What the five moves keep, an iteration keeps. -/
theorem iterate_induction {motive : Run σ → Prop} {device : Device σ} {yield : Nat}
    (polled : ∀ run, motive run → motive (run.polled device).1)
    (reload : ∀ run, motive run → motive run.reload)
    (stepped : ∀ run, motive run → motive run.stepped)
    (shown : ∀ run, motive run → motive (run.shown device yield))
    (finish : ∀ run result, motive run → motive (run.finish device result))
    (run : Run σ) (initial : motive run) : motive (run.iterate device yield) := by
  by_cases quits : (run.polled device).2 = .quit
  · rw [iterate_of_quit yield quits]
    exact finish _ _ (polled run initial)
  · rw [iterate_of_ne_quit yield quits]
    have ready : motive (run.readied device) := by
      rw [readied]
      split
      · exact reload _ (polled run initial)
      · exact polled run initial
    cases outcome : ((run.readied device).machine.step (run.readied device).now).2 with
    | error fault =>
        rw [stepAndPresent_of_error device yield outcome]
        exact finish _ _ (stepped _ ready)
    | ok directive =>
        rw [stepAndPresent_of_ok device yield outcome]
        exact shown _ (stepped _ ready)

theorem filterMap_events_emit {α : Type} (look : Output → Option α) (run : Run σ)
    (device : Device σ) (outputs : List Output) :
    (run.emit device outputs).events.toList.filterMap (fun event => look event.output) =
      run.events.toList.filterMap (fun event => look event.output) ++ outputs.filterMap look := by
  simp only [emit, Array.toList_appendList, List.filterMap_append, List.filterMap_map]
  rfl

/-! ### Iterations in a row -/

theorem complete_of_result {run : Run σ} (device : Device σ) (yield : Nat)
    (ended : run.result.isSome) (bound : Nat) : run.complete device yield bound = run := by
  obtain ⟨result, result_eq⟩ := Option.isSome_iff_exists.mp ended
  cases bound with
  | zero => rfl
  | succ bound => simp [complete, result_eq]

theorem complete_succ_of_none {run : Run σ} (device : Device σ) (yield : Nat)
    (going : run.result = none) (bound : Nat) :
    run.complete device yield (bound + 1) =
      (run.iterate device yield).complete device yield bound := by
  simp [complete, going]

/-- One more poll allowed is one more iteration at the end. -/
theorem complete_succ (run : Run σ) (device : Device σ) (yield : Nat) (bound : Nat) :
    run.complete device yield (bound + 1) =
      (run.complete device yield bound).advance device yield := by
  induction bound generalizing run with
  | zero =>
      cases going : run.result with
      | none => simp [complete, advance, going]
      | some result => simp [complete, advance, going]
  | succ bound induction =>
      cases going : run.result with
      | none =>
          rw [complete_succ_of_none device yield going, induction,
            complete_succ_of_none device yield going]
      | some result =>
          have ended : run.result.isSome := by simp [going]
          simp [complete_of_result device yield ended, advance, going]

/-- More polls allowed change nothing about a run that has ended. -/
theorem complete_of_ended {run : Run σ} {device : Device σ} {yield bound polls : Nat}
    (ended : (run.complete device yield bound).result.isSome) (enough : bound ≤ polls) :
    run.complete device yield polls = run.complete device yield bound := by
  induction enough with
  | refl => rfl
  | step _ induction => rw [complete_succ, induction, advance, if_pos ended]

theorem complete_induction {motive : Run σ → Prop} {device : Device σ} {yield : Nat}
    (iterate : ∀ run, run.result = none → motive run → motive (run.iterate device yield))
    (run : Run σ) (initial : motive run) (bound : Nat) :
    motive (run.complete device yield bound) := by
  induction bound with
  | zero => exact initial
  | succ bound induction =>
      rw [complete_succ, advance]
      split
      · exact induction
      · rename_i going
        exact iterate _ (by simpa using going) induction

/-- A run that uses up something in every iteration ends before it has used up more than there
was. -/
theorem complete_ends (supply : Run σ → Nat) {motive : Run σ → Prop} {device : Device σ}
    {yield : Nat}
    (iterate : ∀ run, motive run → run.result = none →
      (run.iterate device yield).result = none →
        motive (run.iterate device yield) ∧ supply (run.iterate device yield) < supply run)
    (run : Run σ) (initial : motive run) {bound : Nat} (enough : supply run < bound) :
    (run.complete device yield bound).result.isSome := by
  induction bound generalizing run with
  | zero => exact absurd enough (Nat.not_lt_zero _)
  | succ bound induction =>
      cases going : run.result with
      | some result =>
          have ended : run.result.isSome := by simp [going]
          rwa [complete_of_result device yield ended]
      | none =>
          rw [complete_succ_of_none device yield going]
          cases next : (run.iterate device yield).result with
          | some result =>
              have ended : (run.iterate device yield).result.isSome := by simp [next]
              rwa [complete_of_result device yield ended]
          | none =>
              obtain ⟨kept, used⟩ := iterate run initial going next
              exact induction _ kept (by omega)

/-! ### Scripted runs -/

theorem device_reactAll_scripted (script : List Cue) (outputs : List Output) :
    (Device.scripted.reactAll script outputs).device = script := by
  induction outputs generalizing script with
  | nil => rfl
  | cons output outputs induction =>
      simp only [Device.reactAll, induction]
      cases output <;> rfl

theorem device_iterate_scripted {run : Run (List Cue)} {yield : Nat}
    (going : (run.iterate Device.scripted yield).result = none) :
    ∃ cue, run.device = cue :: (run.iterate Device.scripted yield).device := by
  by_cases quits : (run.polled Device.scripted).2 = .quit
  · rw [iterate_of_quit yield quits] at going
    simp [finish] at going
  · rw [iterate_of_ne_quit yield quits] at going ⊢
    have played : ∃ cue, run.device = cue :: (run.readied Device.scripted).device := by
      cases script : run.device with
      | nil => simp [polled, Device.scripted, script] at quits
      | cons cue rest =>
          refine ⟨cue, ?_⟩
          rw [readied]
          split <;> simp [polled, reload, Device.scripted, script]
    generalize run.readied Device.scripted = ready at going played ⊢
    cases outcome : (ready.machine.step ready.now).2 with
    | error fault =>
        rw [stepAndPresent_of_error Device.scripted yield outcome] at going
        simp [finish] at going
    | ok directive =>
        rw [stepAndPresent_of_ok Device.scripted yield outcome]
        have kept : (ready.stepped.shown Device.scripted yield).device = ready.device :=
          device_reactAll_scripted _ _
        rwa [kept]

/-- A scripted run ends by the poll that follows its last cue. -/
theorem complete_scripted_ends (run : Run (List Cue)) (yield : Nat) {bound : Nat}
    (enough : run.device.length < bound) :
    (run.complete Device.scripted yield bound).result.isSome := by
  refine complete_ends (fun run => run.device.length) (motive := fun _ => True)
    (fun run _ _ next => ⟨trivial, ?_⟩) run trivial enough
  obtain ⟨cue, script⟩ := device_iterate_scripted next
  rw [script, List.length_cons]
  exact Nat.lt_succ_self _

end Run

namespace Machine

variable {σ : Type} (machine : Machine) (device : Device σ) (state : σ) (yield : Nat) (now : Int)

theorem run_succ (polls : Nat) :
    machine.run device state yield now (polls + 1) =
      (machine.run device state yield now polls).advance device yield :=
  Run.complete_succ _ device yield polls

theorem run_succ_of_going {polls : Nat}
    (going : (machine.run device state yield now polls).result = none) :
    machine.run device state yield now (polls + 1) =
      (machine.run device state yield now polls).iterate device yield := by
  rw [run_succ, Run.advance, if_neg (by simp [going])]

theorem run_of_ended {bound polls : Nat}
    (ended : (machine.run device state yield now bound).result.isSome) (enough : bound ≤ polls) :
    machine.run device state yield now polls = machine.run device state yield now bound :=
  Run.complete_of_ended ended enough

theorem device_run_scripted {script : List Cue} {polls : Nat}
    (going : (machine.run Device.scripted script yield now polls).result = none) :
    (machine.run Device.scripted script yield now polls).device = script.drop polls := by
  induction polls with
  | zero => rfl
  | succ polls induction =>
      rw [run_succ] at going ⊢
      cases before : (machine.run Device.scripted script yield now polls).result with
      | some result => simp [Run.advance, before] at going
      | none =>
          rw [Run.advance, if_neg (by simp [before])] at going ⊢
          obtain ⟨cue, played⟩ := Run.device_iterate_scripted going
          rw [← List.tail_drop, ← induction before, played, List.tail_cons]

end Machine
end Chip8
