import Chip8.Proofs.Fault
import Chip8.Proofs.Iteration
import Chip8.Proofs.Loading
import Chip8.Proofs.Terminal
import Chip8.Session

/-!
# The course of a session

A session goes round in cycles: a poll of the terminal, a step, a presentation and a wait.  Until
it ends, the number of iterations made is the number of the cycle that comes up.  One law says
everything that an iteration can do.
-/

namespace Chip8
namespace Session

/-- What decides the course of a session. -/
structure Plan where
  settings : Settings
  image : ProgramImage
  /-- What frames and bells are written to. -/
  screen : Screen := {}
  /-- The wall clock at the beginning, which may seed the random number generator. -/
  wallClock : Int := 0
  /-- Nanoseconds given away by each yield of a wait. -/
  yield : Nat

namespace Plan

/-- The session after some iterations, or at its end if it ended before. -/
def after (plan : Plan) (iterations : Nat) : Run Terminal :=
  (begin plan.settings plan.image plan.screen plan.wallClock 0).complete Terminal.device plan.yield
    iterations

/-- The session in a cycle, when its poll has been answered. -/
def ready (plan : Plan) (cycle : Nat) : Run Terminal :=
  ((plan.after cycle).polled Terminal.device).1

/-- The machine that makes the step of a cycle. -/
def machine (plan : Plan) (cycle : Nat) : Machine := (plan.ready cycle).machine

/-- The machine after the step of a cycle. -/
def stepped (plan : Plan) (cycle : Nat) : Machine :=
  ((plan.machine cycle).step (plan.ready cycle).now).1

/-- How the step of a cycle comes out. -/
def outcome (plan : Plan) (cycle : Nat) : Except Fault Directive :=
  ((plan.machine cycle).step (plan.ready cycle).now).2

/-- The whole session. -/
def whole (plan : Plan) : Run Terminal :=
  Session.run plan.settings plan.image Terminal.device plan.screen plan.wallClock plan.yield

variable (plan : Plan)

theorem after_succ (iterations : Nat) :
    plan.after (iterations + 1) = (plan.after iterations).advance Terminal.device plan.yield :=
  Run.complete_succ _ _ _ _

theorem after_of_ended {bound iterations : Nat} (ended : (plan.after bound).result.isSome)
    (enough : bound ≤ iterations) : plan.after iterations = plan.after bound :=
  Run.complete_of_ended ended enough

theorem result_of_le {earlier iterations : Nat} (going : (plan.after iterations).result = none)
    (before : earlier ≤ iterations) : (plan.after earlier).result = none := by
  cases result_eq : (plan.after earlier).result with
  | none => rfl
  | some result =>
      have ended : (plan.after earlier).result.isSome := by simp [result_eq]
      rw [plan.after_of_ended ended before, result_eq] at going
      exact nomatch going

/-! ### One iteration -/

/-- The terminal quits. -/
structure Quits (cycle : Nat) : Prop where
  exhausted : (plan.after cycle).device.exhausted = true
  next : plan.after (cycle + 1) = (plan.ready cycle).finish Terminal.device (.ok ())

/-- The machine stops. -/
structure Stops (cycle : Nat) (fault : Fault) : Prop where
  goes_on : (plan.after cycle).device.exhausted = false
  outcome : plan.outcome cycle = .error fault
  next : plan.after (cycle + 1) =
    (plan.ready cycle).stepped.finish Terminal.device (.error fault)

/-- The session goes on to the next cycle. -/
structure Continues (cycle : Nat) (directive : Directive) : Prop where
  goes_on : (plan.after cycle).device.exhausted = false
  outcome : plan.outcome cycle = .ok directive
  next : plan.after (cycle + 1) = (plan.ready cycle).stepped.shown Terminal.device plan.yield

theorem control_polled (run : Run Terminal) :
    (run.polled Terminal.device).2 = if run.device.exhausted then .quit else .proceed :=
  Terminal.control_poll _ _

/-- The terminal never asks for a reload. -/
theorem readied_eq_polled (run : Run Terminal) :
    run.readied Terminal.device = (run.polled Terminal.device).1 := by
  have keeps : (run.polled Terminal.device).2 ≠ .reload := by
    rw [control_polled]
    split <;> simp
  rw [Run.readied, if_neg keeps]

/-- One of three things happens in a cycle. -/
theorem iteration (cycle : Nat) (going : (plan.after cycle).result = none) :
    plan.Quits cycle ∨ (∃ fault, plan.Stops cycle fault) ∨
      ∃ directive, plan.Continues cycle directive := by
  have advanced : plan.after (cycle + 1) =
      (plan.after cycle).iterate Terminal.device plan.yield := by
    rw [after_succ, Run.advance, if_neg (by simp [going])]
  have control := control_polled (plan.after cycle)
  cases exhausted : (plan.after cycle).device.exhausted with
  | true =>
      left
      rw [exhausted, if_pos rfl] at control
      exact ⟨exhausted, advanced.trans (Run.iterate_of_quit plan.yield control)⟩
  | false =>
      right
      simp only [exhausted, Bool.false_eq_true, if_false] at control
      have stays : ((plan.after cycle).polled Terminal.device).2 ≠ .quit := by simp [control]
      have readied : (plan.after cycle).readied Terminal.device = plan.ready cycle :=
        readied_eq_polled _
      rw [Run.iterate_of_ne_quit plan.yield stays, readied] at advanced
      cases outcome_eq : plan.outcome cycle with
      | error fault =>
          left
          rw [Run.stepAndPresent_of_error Terminal.device plan.yield outcome_eq] at advanced
          exact ⟨fault, exhausted, outcome_eq, advanced⟩
      | ok directive =>
          right
          rw [Run.stepAndPresent_of_ok Terminal.device plan.yield outcome_eq] at advanced
          exact ⟨directive, exhausted, outcome_eq, advanced⟩

variable {plan} {cycle : Nat}

theorem Continues.going {directive : Directive} (continues : plan.Continues cycle directive)
    (going : (plan.after cycle).result = none) : (plan.after (cycle + 1)).result = none := by
  rw [continues.next]
  exact going

theorem Stops.result {fault : Fault} (stops : plan.Stops cycle fault) :
    (plan.after (cycle + 1)).result = some (.error fault) := by
  rw [stops.next]
  rfl

theorem Quits.result (quits : plan.Quits cycle) :
    (plan.after (cycle + 1)).result = some (.ok ()) := by
  rw [quits.next]
  rfl

theorem continues_of_going (going : (plan.after (cycle + 1)).result = none) :
    ∃ directive, plan.Continues cycle directive := by
  have before := plan.result_of_le going (Nat.le_succ cycle)
  rcases plan.iteration cycle before with quits | ⟨fault, stops⟩ | continues
  · rw [quits.result] at going
    exact nomatch going
  · rw [stops.result] at going
    exact nomatch going
  · exact continues

theorem quits_of_exhausted (going : (plan.after cycle).result = none)
    (exhausted : (plan.after cycle).device.exhausted = true) : plan.Quits cycle := by
  rcases plan.iteration cycle going with quits | ⟨fault, stops⟩ | ⟨directive, continues⟩
  · exact quits
  · exact absurd exhausted (by simp [stops.goes_on])
  · exact absurd exhausted (by simp [continues.goes_on])

/-- What holds at the beginning and is kept by every iteration that goes on holds for as long as
the session goes on. -/
theorem going_induction {motive : Nat → Prop} (initial : motive 0)
    (next : ∀ cycle directive, (plan.after cycle).result = none → motive cycle →
      plan.Continues cycle directive → motive (cycle + 1))
    (going : (plan.after cycle).result = none) : motive cycle := by
  induction cycle with
  | zero => exact initial
  | succ cycle induction =>
      have before := plan.result_of_le going (Nat.le_succ cycle)
      obtain ⟨directive, continues⟩ := continues_of_going going
      exact next cycle directive before (induction before) continues

/-! ### Counting cycles -/

theorem cycle_ready (goes_on : (plan.after cycle).device.exhausted = false) :
    (plan.ready cycle).device.cycle = (plan.after cycle).device.cycle + 1 :=
  (Terminal.plays_poll _ goes_on).cycle

theorem maxCycles_ready (goes_on : (plan.after cycle).device.exhausted = false) :
    (plan.ready cycle).device.maxCycles = (plan.after cycle).device.maxCycles :=
  (Terminal.plays_poll _ goes_on).maxCycles

theorem sameScript_emit (run : Run Terminal) (outputs : List Output) :
    Terminal.SameScript run.device (run.emit Terminal.device outputs).device :=
  Terminal.sameScript_reactAll run.device outputs

theorem counts (going : (plan.after cycle).result = none) :
    (plan.after cycle).device.cycle = cycle ∧
      (plan.after cycle).device.maxCycles = plan.settings.maxCycles := by
  refine going_induction (motive := fun cycle => (plan.after cycle).device.cycle = cycle ∧
    (plan.after cycle).device.maxCycles = plan.settings.maxCycles) ⟨rfl, rfl⟩ ?_ going
  rintro cycle directive - ⟨cycle_eq, maxCycles_eq⟩ continues
  have same := sameScript_emit (plan.ready cycle).stepped (plan.stepped cycle).presentation
  rw [continues.next]
  constructor
  · exact same.cycle.trans ((cycle_ready continues.goes_on).trans (congrArg (· + 1) cycle_eq))
  · exact same.maxCycles.trans ((maxCycles_ready continues.goes_on).trans maxCycles_eq)

theorem exhausted_iff (going : (plan.after cycle).result = none) {maxCycles : Nat}
    (limited : plan.settings.maxCycles = some maxCycles) :
    (plan.after cycle).device.exhausted = true ↔ maxCycles ≤ cycle := by
  obtain ⟨cycle_eq, maxCycles_eq⟩ := counts going
  rw [Terminal.exhausted, maxCycles_eq, limited, cycle_eq]
  simp

/-- A cycle before the last either stops the session or goes on. -/
theorem iteration_of_lt {maxCycles : Nat}
    (limited : plan.settings.maxCycles = some maxCycles) (within : cycle < maxCycles)
    (going : (plan.after cycle).result = none) :
    (∃ fault, plan.Stops cycle fault) ∨ ∃ directive, plan.Continues cycle directive := by
  rcases plan.iteration cycle going with quits | others
  · have spent := (exhausted_iff going limited).mp quits.exhausted
    omega
  · exact others

/-- A session whose machine stops has counted the cycle in which it does. -/
theorem Stops.counted {fault : Fault} (stops : plan.Stops cycle fault)
    (going : (plan.after cycle).result = none) :
    (plan.after (cycle + 1)).device.cycle = cycle + 1 := by
  rw [stops.next]
  refine (sameScript_emit _ _).cycle.trans ((cycle_ready stops.goes_on).trans ?_)
  rw [(counts going).1]

theorem Quits.counted (quits : plan.Quits cycle) (going : (plan.after cycle).result = none) :
    (plan.after (cycle + 1)).device.cycle = cycle := by
  rw [quits.next]
  refine (sameScript_emit _ _).cycle.trans ?_
  have unchanged : (plan.ready cycle).device = (plan.after cycle).device :=
    (Terminal.poll_of_exhausted _ quits.exhausted).1
  rw [unchanged, (counts going).1]

end Plan
end Session
end Chip8
