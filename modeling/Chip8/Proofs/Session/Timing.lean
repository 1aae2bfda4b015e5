import Chip8.Proofs.Session.Straight
import Mathlib.Algebra.Order.Floor.Div

/-!
# The time in a session

In a session time passes only while the run loop waits for its clock.  Each wait lasts for as many
whole yields as it takes to make up the interval of the clock, so the steps follow each other in
equal periods.  The timers, which are looked at once a step and do not catch up, tick at the first
step at which their interval is over, and from there on in equal numbers of steps.
-/

namespace Chip8

namespace Clock

/-- The number of looks from one tick to the next, if a clock is looked at once in a period. -/
def looksPerTick (interval period : Nat) : Nat := interval ⌈/⌉ period

/-- The latest look before a look at which the clock ticked, the first look counting as a tick. -/
def lastTick (interval period look : Nat) : Nat :=
  (look - 1) / looksPerTick interval period * looksPerTick interval period

variable {interval : Nat}

theorem looksPerTick_le_iff {period : Nat} (moving : 0 < period) (looks : Nat) :
    looksPerTick interval period ≤ looks ↔ interval ≤ looks * period := by
  rw [Nat.mul_comm]
  exact ceilDiv_le_iff_le_mul moving

theorem looksPerTick_pos (positive : 0 < interval) {period : Nat} (moving : 0 < period) :
    0 < looksPerTick interval period := by
  have none_enough : looksPerTick interval period ≤ 0 ↔ interval ≤ 0 * period :=
    looksPerTick_le_iff moving 0
  omega

/-- A clock that is looked at once in a period ticks at every so many looks. -/
theorem due_look_iff (positive : 0 < interval) (period look : Nat) :
    (Clock.mk (lastTick interval period look * period : Nat) interval).due
        (look * period : Nat) = true ↔
      0 < period ∧ 0 < look ∧ look % looksPerTick interval period = 0 := by
  rw [due_iff]
  rcases Nat.eq_zero_or_pos period with rfl | moving
  · simp only [Nat.mul_zero]
    omega
  have perTick_pos := looksPerTick_pos positive moving
  have enough (looks : Nat) : looksPerTick interval period ≤ looks ↔ interval ≤ looks * period :=
    looksPerTick_le_iff moving looks
  cases look with
  | zero =>
      simp only [lastTick, Nat.zero_sub, Nat.zero_div, Nat.zero_mul]
      omega
  | succ look =>
      simp only [lastTick, Nat.add_sub_cancel]
      generalize looksPerTick interval period = perTick at perTick_pos enough ⊢
      have division := Nat.div_add_mod' look perTick
      have remainder := Nat.mod_lt look perTick_pos
      -- Since the tick before, there have been as many looks as the remainder and one more.
      have since := enough (look % perTick + 1)
      have time_eq : (look + 1) * period =
          look / perTick * perTick * period + (look % perTick + 1) * period := by
        rw [← Nat.add_mul, ← Nat.add_assoc, division]
      have again_iff : (look + 1) % perTick = 0 ↔ perTick ≤ look % perTick + 1 := by
        rw [← Nat.mod_add_mod]
        rcases Nat.lt_or_eq_of_le (Nat.succ_le_of_lt remainder) with below | full
        · rw [Nat.mod_eq_of_lt below]
          omega
        · rw [← Nat.succ_eq_add_one, full, Nat.mod_self]
          omega
      omega

theorem lastTick_succ (interval period look : Nat) :
    lastTick interval period (look + 1) * period =
      if 0 < period ∧ 0 < look ∧ look % looksPerTick interval period = 0 then look * period
      else lastTick interval period look * period := by
  simp only [lastTick, Nat.add_sub_cancel]
  split
  · rename_i ticks
    rw [Nat.div_mul_cancel (Nat.dvd_of_mod_eq_zero ticks.2.2)]
  · rename_i rests
    rcases Nat.eq_zero_or_pos period with rfl | moving
    · simp
    cases look with
    | zero => rfl
    | succ look =>
        have apart : ¬looksPerTick interval period ∣ look + 1 :=
          fun divides => rests ⟨moving, Nat.succ_pos look, Nat.mod_eq_zero_of_dvd divides⟩
        rw [Nat.succ_div_of_not_dvd apart, Nat.add_sub_cancel]

/-- A wait that begins at a tick takes as many whole yields as make up the interval. -/
theorem wait_eq (time : Int) (interval : Nat) {yield : Nat} (yields : 0 < yield) :
    (Clock.mk time interval).wait yield time =
      (⟨time + (interval ⌈/⌉ yield * yield : Nat), interval⟩,
        time + (interval ⌈/⌉ yield * yield : Nat)) := by
  rcases Nat.eq_zero_or_pos interval with rfl | throttled
  · simp [wait]
  have count : (Clock.mk time interval).yieldsUntilDue yield time = interval ⌈/⌉ yield := by
    have span : (time + interval - time).toNat + (yield - 1) = interval + yield - 1 := by omega
    rw [yieldsUntilDue, Nat.ceilDiv_eq_add_pred_div, span]
  simp only [wait, Nat.ne_of_gt throttled, if_false, count, reset]

end Clock

namespace Machine

theorem timer_step {machine : Machine} (going : machine.processor.fault = none) (now : Int) :
    (machine.step now).1.timer =
      if machine.timer.due now then machine.timer.reset now else machine.timer := by
  rw [step_machine_of_none now going]
  simp only [cycle, tick]
  split <;> rfl

theorem tick_eq_due (machine : Machine) (now : Int) :
    (machine.tick now).2 = machine.timer.due now := by
  rw [tick]
  split
  · rename_i due
    exact due.symm
  · rename_i rests
    exact (Bool.eq_false_of_not_eq_true rests).symm

end Machine

namespace Session
namespace Plan

/-- Nanoseconds from one step of a session to the next: the interval of the clock, rounded up to
whole yields. -/
def period (plan : Plan) : Nat := plan.settings.machine.interval ⌈/⌉ plan.yield * plan.yield

/-- The interval of the timers. -/
def timerInterval : Nat := intervalOfFrequency timerFrequency

/-- The clocks of a session in a cycle. -/
structure OnTime (plan : Plan) (cycle : Nat) (run : Run Terminal) : Prop where
  now : run.now = (cycle * plan.period : Nat)
  /-- The clock of the run loop starts afresh in every cycle. -/
  clock : run.machine.clock = ⟨(cycle * plan.period : Nat), plan.settings.machine.interval⟩
  /-- The clock of the timers starts afresh with every tick. -/
  timer : run.machine.timer =
    ⟨(Clock.lastTick timerInterval plan.period cycle * plan.period : Nat), timerInterval⟩
  fault : run.machine.processor.fault = none

variable {plan : Plan} {cycle : Nat}

theorem onTime_begin (plan : Plan) : plan.OnTime 0 (plan.after 0) where
  now := by
    rw [Nat.zero_mul]
    rfl
  clock := by
    rw [Nat.zero_mul]
    rfl
  timer := by
    rw [Clock.lastTick, Nat.zero_sub, Nat.zero_div, Nat.zero_mul, Nat.zero_mul]
    rfl
  fault := rfl

theorem OnTime.ready (onTime : plan.OnTime cycle (plan.after cycle)) :
    plan.OnTime cycle (plan.ready cycle) where
  now := by
    have elapsed : (plan.ready cycle).now = (plan.after cycle).now + 0 :=
      congrArg ((plan.after cycle).now + ·) (Terminal.elapsed_poll _ _)
    rw [elapsed, Int.add_zero, onTime.now]
  clock := onTime.clock
  timer := onTime.timer
  fault := onTime.fault

/-- A cycle that goes on makes its step, ticks if there have been enough steps, and waits. -/
theorem OnTime.next {directive : Directive} (onTime : plan.OnTime cycle (plan.after cycle))
    (yields : 0 < plan.yield) (continues : plan.Continues cycle directive) :
    plan.OnTime (cycle + 1) (plan.after (cycle + 1)) := by
  have ready := onTime.ready
  have timer := Machine.timer_step ready.fault (plan.ready cycle).now
  have waited : (plan.ready cycle).stepped.machine.clock.wait plan.yield (plan.ready cycle).now =
      (⟨((cycle + 1) * plan.period : Nat), plan.settings.machine.interval⟩,
        (((cycle + 1) * plan.period : Nat) : Int)) := by
    have unchanged : (plan.ready cycle).stepped.machine.clock = (plan.ready cycle).machine.clock :=
      Machine.clock_step _ _
    have next_eq : ((cycle * plan.period : Nat) : Int) + (plan.period : Nat) =
        ((cycle + 1) * plan.period : Nat) := by
      rw [Nat.succ_mul, Int.natCast_add]
    rw [unchanged, ready.clock, ready.now, Clock.wait_eq _ _ yields, ← period, next_eq]
  rw [continues.next]
  constructor
  · exact congrArg Prod.snd waited
  · exact congrArg Prod.fst waited
  · refine timer.trans ?_
    have due := Clock.due_look_iff (show 0 < timerInterval by decide) plan.period cycle
    rw [ready.timer, ready.now, Clock.lastTick_succ]
    split
    · rename_i ticks
      rw [if_pos (due.mp ticks)]
      rfl
    · rename_i rests
      rw [if_neg (rests ∘ due.mpr)]
  · exact Machine.fault_step_of_ok continues.outcome

theorem onTime_of_going (yields : 0 < plan.yield) (going : (plan.after cycle).result = none) :
    plan.OnTime cycle (plan.after cycle) :=
  going_induction (motive := fun cycle => plan.OnTime cycle (plan.after cycle)) plan.onTime_begin
    (fun _ _ _ onTime continues => onTime.next yields continues) going

/-- The timers tick at the steps that are a whole number of ticks away from the first. -/
theorem OnTime.ticks_iff (onTime : plan.OnTime cycle (plan.after cycle)) :
    ((plan.machine cycle).tick (plan.ready cycle).now).2 = true ↔
      0 < plan.period ∧ 0 < cycle ∧ cycle % Clock.looksPerTick timerInterval plan.period = 0 := by
  have ready := onTime.ready
  rw [Machine.tick_eq_due, machine, ready.timer, ready.now]
  exact Clock.due_look_iff (by decide) plan.period cycle

/-! ### How a session ends -/

section Ending

variable {maxCycles : Nat}

theorem going_of_ok (limited : plan.settings.maxCycles = some maxCycles)
    (within : cycle ≤ maxCycles)
    (succeeds : ∀ earlier < cycle, ∃ directive, plan.outcome earlier = .ok directive) :
    (plan.after cycle).result = none := by
  induction cycle with
  | zero => rfl
  | succ cycle induction =>
      have going := induction (by omega) fun earlier before => succeeds earlier (by omega)
      obtain ⟨directive, goes⟩ := succeeds cycle (Nat.lt_succ_self cycle)
      rcases plan.iteration cycle going with quits | ⟨fault, stops⟩ | ⟨directive, continues⟩
      · have spent := (exhausted_iff going limited).mp quits.exhausted
        omega
      · rw [stops.outcome] at goes
        exact nomatch goes
      · exact continues.going going

theorem going_iff (limited : plan.settings.maxCycles = some maxCycles)
    (within : cycle ≤ maxCycles) :
    (plan.after cycle).result = none ↔
      ∀ earlier < cycle, ∃ directive, plan.outcome earlier = .ok directive := by
  refine ⟨fun going earlier before => ?_, going_of_ok limited within⟩
  obtain ⟨directive, continues⟩ :=
    continues_of_going (plan.result_of_le going (Nat.succ_le_of_lt before))
  exact ⟨directive, continues.outcome⟩

theorem whole_eq (limited : plan.settings.maxCycles = some maxCycles) :
    plan.whole = plan.after (maxCycles + 1) := by
  rw [whole, Session.run, pollBound, limited]
  rfl

theorem whole_of_ok (limited : plan.settings.maxCycles = some maxCycles)
    (yields : 0 < plan.yield)
    (succeeds : ∀ cycle < maxCycles, ∃ directive, plan.outcome cycle = .ok directive) :
    plan.whole.result = some (.ok ()) ∧ plan.whole.device.cycle = maxCycles ∧
      plan.whole.now = (maxCycles * plan.period : Nat) := by
  have going := going_of_ok limited (Nat.le_refl maxCycles) succeeds
  have exhausted := (exhausted_iff going limited).mpr (Nat.le_refl maxCycles)
  have quits := quits_of_exhausted going exhausted
  rw [whole_eq limited]
  refine ⟨quits.result, quits.counted going, ?_⟩
  rw [quits.next]
  exact (onTime_of_going yields going).ready.now

/-- A session ends with the first step that fails. -/
theorem whole_of_error (limited : plan.settings.maxCycles = some maxCycles)
    (yields : 0 < plan.yield) (within : cycle < maxCycles) {fault : Fault}
    (fails : plan.outcome cycle = .error fault)
    (succeeds : ∀ earlier < cycle, ∃ directive, plan.outcome earlier = .ok directive) :
    plan.whole.result = some (.error fault) ∧ plan.whole.device.cycle = cycle + 1 ∧
      plan.whole.now = (cycle * plan.period : Nat) := by
  have going := going_of_ok limited (Nat.le_of_lt within) succeeds
  rcases iteration_of_lt limited within going with ⟨other, stops⟩ | ⟨directive, continues⟩
  · obtain rfl : fault = other := by
      have same := stops.outcome
      rw [fails] at same
      exact Except.error.inj same
    have ended : (plan.after (cycle + 1)).result.isSome := by simp [stops.result]
    rw [whole_eq limited, plan.after_of_ended ended (by omega)]
    refine ⟨stops.result, stops.counted going, ?_⟩
    rw [stops.next]
    exact (onTime_of_going yields going).ready.now
  · rw [continues.outcome] at fails
    exact nomatch fails

theorem exists_first_error
    (fails : ¬∀ cycle < maxCycles, ∃ directive, plan.outcome cycle = .ok directive) :
    ∃ cycle < maxCycles, (∃ fault, plan.outcome cycle = .error fault) ∧
      ∀ earlier < cycle, ∃ directive, plan.outcome earlier = .ok directive := by
  classical
  simp only [not_forall] at fails
  have least := Nat.find_spec fails
  obtain ⟨within, failing⟩ := least
  refine ⟨Nat.find fails, within, ?_, ?_⟩
  · cases outcome_eq : plan.outcome (Nat.find fails) with
    | error fault => exact ⟨fault, rfl⟩
    | ok directive => exact absurd ⟨directive, outcome_eq⟩ failing
  · intro earlier before
    have none_before := Nat.find_min fails before
    by_contra failing_before
    exact none_before ⟨Nat.lt_trans before within, failing_before⟩

end Ending

/-- The course of a session with a bound on its cycles.  Cycles are counted from zero, so the step
of a cycle is the one with the next greater number when steps are counted from one. -/
structure Timed (plan : Plan) (maxCycles : Nat) : Prop where
  /-- The period is the interval of the frequency, if there is one, in whole yields. -/
  period : plan.period =
    (match plan.settings.machine.clockFrequency with
      | none => 0
      | some frequency => 1000000000 / frequency.toNat) ⌈/⌉ plan.yield * plan.yield
  ends : plan.whole.result.isSome
  /-- A cycle comes up unless a step before it failed. -/
  comes_up : ∀ cycle < maxCycles, (plan.after cycle).result = none ↔
    ∀ earlier < cycle, ∃ directive, plan.outcome earlier = .ok directive
  /-- Each cycle that comes up makes its step, a period after the one before. -/
  steps : ∀ cycle < maxCycles, (plan.after cycle).result = none →
    plan.after (cycle + 1) = (plan.ready cycle).stepAndPresent Terminal.device plan.yield ∧
      (plan.ready cycle).now = (cycle * plan.period : Nat)
  /-- The timers tick at the beginning of every so many steps, and never without a period. -/
  ticks : ∀ cycle < maxCycles, (plan.after cycle).result = none →
    (((plan.ready cycle).machine.tick (plan.ready cycle).now).2 = true ↔
      0 < plan.period ∧ 0 < cycle ∧ cycle % (16666666 ⌈/⌉ plan.period) = 0)
  completed : (plan.whole.result = some (.ok ()) ∧ plan.whole.device.cycle = maxCycles ∧
      plan.whole.now = (maxCycles * plan.period : Nat)) ↔
    ∀ cycle < maxCycles, ∃ directive, plan.outcome cycle = .ok directive
  stopped : ∀ cycle < maxCycles, ∀ fault, plan.outcome cycle = .error fault →
    (∀ earlier < cycle, ∃ directive, plan.outcome earlier = .ok directive) →
      plan.whole.result = some (.error fault) ∧ plan.whole.device.cycle = cycle + 1 ∧
        plan.whole.now = (cycle * plan.period : Nat)

/-- Every session with a bound on its cycles runs on time and ends on time. -/
theorem session_timed (plan : Plan) {maxCycles : Nat}
    (limited : plan.settings.maxCycles = some maxCycles) (yields : 0 < plan.yield) :
    plan.Timed maxCycles where
  period := by
    have interval_eq : plan.settings.machine.interval =
        match plan.settings.machine.clockFrequency with
          | none => 0
          | some frequency => 1000000000 / frequency.toNat := by
      rw [MachineSettings.interval, intervalOfFrequency, nanosecondsPerSecond]
      cases plan.settings.machine.clockFrequency with
      | none => rfl
      | some frequency =>
          simp only [Option.getD_some, ite_eq_right_iff]
          intro zero
          rw [zero, Nat.div_zero]
    rw [Plan.period, interval_eq]
  ends := by
    by_cases succeeds : ∀ cycle < maxCycles, ∃ directive, plan.outcome cycle = .ok directive
    · simp [(whole_of_ok limited yields succeeds).1]
    · obtain ⟨cycle, within, ⟨fault, fails⟩, before⟩ := exists_first_error succeeds
      simp [(whole_of_error limited yields within fails before).1]
  comes_up _ within := going_iff limited (Nat.le_of_lt within)
  steps cycle within going := by
    refine ⟨?_, (onTime_of_going yields going).ready.now⟩
    rcases iteration_of_lt limited within going with ⟨fault, stops⟩ | ⟨directive, continues⟩
    · rw [stops.next]
      exact (Run.stepAndPresent_of_error Terminal.device plan.yield stops.outcome).symm
    · rw [continues.next]
      exact (Run.stepAndPresent_of_ok Terminal.device plan.yield continues.outcome).symm
  ticks cycle _ going := (onTime_of_going yields going).ticks_iff
  completed := by
    refine ⟨fun completed => ?_, whole_of_ok limited yields⟩
    by_contra failing
    obtain ⟨cycle, within, ⟨fault, fails⟩, before⟩ := exists_first_error failing
    have stopped := whole_of_error limited yields within fails before
    rw [completed.1] at stopped
    simp at stopped
  stopped _ within _ fails before := whole_of_error limited yields within fails before

/-- At 500 steps a second and yields of one and a half milliseconds, every wait takes two yields.
An idle session of eight steps ticks at the seventh.  A session that returns without having been
called ends at its second step. -/
theorem session_timed_ticking :
    let settings : Settings := { machine := { clockFrequency := some 500 }, maxCycles := some 8 }
    let idle : Plan := { settings, image := ⟨"idle", #[]⟩, yield := 1500000 }
    let bare : Plan := { idle with image := ⟨"bare", #[0x60, 0x05, 0x00, 0xEE]⟩ }
    (idle.whole.result = some (.ok ()) ∧ idle.whole.device.cycle = 8 ∧
        idle.whole.now = 24000000) ∧
      (∀ cycle < 8,
        ((idle.ready cycle).machine.tick (idle.ready cycle).now).2 = true ↔ cycle = 6) ∧
      bare.whole.result = some (.error .stackUnderflow) ∧ bare.whole.device.cycle = 2 ∧
      bare.whole.now = 3000000 := by
  intro settings idle bare
  have timed : idle.Timed 8 := session_timed idle rfl (by decide)
  have bare_timed : bare.Timed 8 := session_timed bare rfl (by decide)
  have idle_period : idle.period = 3000000 := by decide
  have bare_period : bare.period = 3000000 := idle_period
  have succeeds (cycle : Nat) (before : cycle < 8) :
      ∃ directive, idle.outcome cycle = .ok directive := by
    have straight (cycle : Nat) : (idle.word cycle).isStraight = true := by
      simp only [word, idle, Array.getElem?_empty, Option.getD_none]
      decide
    have reads : idle.Reads cycle :=
      reads_of_straight rfl (Nat.le_of_lt before) (by omega) fun earlier _ => straight earlier
    exact ⟨_, (reads.step (by omega) (straight cycle)).1⟩
  refine ⟨?_, ?_, ?_⟩
  · obtain ⟨result, counted, time⟩ := timed.completed.mpr succeeds
    rw [idle_period] at time
    exact ⟨result, counted, time⟩
  · intro cycle before
    have going : (idle.after cycle).result = none :=
      (timed.comes_up cycle before).mpr fun earlier sooner => succeeds earlier (by omega)
    have perTick : 16666666 ⌈/⌉ 3000000 = 6 := by decide
    rw [timed.ticks cycle before going, idle_period, perTick]
    omega
  · have straight : (bare.word 0).isStraight = true := by decide
    have first := bare.reads_zero.step (by omega) straight
    have second : bare.Reads 1 := bare.reads_zero.next rfl (by omega) straight (by omega)
    have fails : bare.outcome 1 = .error .stackUnderflow :=
      second.outcome_of_ret (by omega) (by decide)
    obtain ⟨result, counted, time⟩ := bare_timed.stopped 1 (by omega) _ fails (by
      intro cycle before
      obtain rfl : cycle = 0 := by omega
      exact ⟨_, first.1⟩)
    rw [bare_period] at time
    exact ⟨result, counted, time⟩

end Plan
end Session
end Chip8
