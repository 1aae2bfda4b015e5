import Chip8.Device.Script
import Chip8.Proofs.History
import Mathlib.Order.Bounds.Basic

/-!
# Throttling

A wait looks at the clock again and again, and yields until a tick is due.  As every yield takes the
same time, the loop is left after the least number of yields that makes up the interval.  In a run
every iteration ends with such a wait, and the clock never counts from before the end of the last
one: not at the start, not after a reload and not after a slow device.  So iterations end at least
an interval apart, and lost time is not made up for.
-/

namespace Chip8

namespace Clock

/-- The loop of a wait, given up after some passes.  A pass ends the wait if a tick is due, and
yields otherwise. -/
def spin (clock : Clock) (yield : Nat) : (passes : Nat) → (now : Int) → Option (Clock × Int)
  | 0, _ => none
  | passes + 1, now =>
      if clock.due now then some (clock.reset now, now) else clock.spin yield passes (now + yield)

/-- A wait that begins at a time takes some yields. -/
structure Waits (clock : Clock) (yield : Nat) (now : Int) (yields : Nat) : Prop where
  /-- The loop is left at its first pass after the yields. -/
  spin : ∀ passes, clock.spin yield passes now =
    if yields < passes then some (clock.wait yield now) else none
  /-- Afterwards the clock counts from the time at which the wait ended. -/
  wait : clock.wait yield now =
    (⟨now + (yields * yield : Nat), clock.interval⟩, now + (yields * yield : Nat))
  least : IsLeast {count : Nat | clock.interval ≤ now + (count * yield : Nat) - clock.last} yields
  /-- A wait is never longer than it has to be by a whole yield. -/
  early : now - clock.last < clock.interval →
    (clock.wait yield now).2 - clock.last < clock.interval + yield
  /-- No time passes if there is nothing to wait for. -/
  late : clock.interval ≤ now - clock.last → (clock.wait yield now).2 = now

variable (clock : Clock) {yield : Nat} (now : Int)

theorem yieldsUntilDue_le_iff (yields : 0 < yield) (count : Nat) :
    clock.yieldsUntilDue yield now ≤ count ↔
      clock.last + clock.interval ≤ now + (count * yield : Nat) := by
  rw [yieldsUntilDue, Nat.div_le_iff_le_mul_add_pred yields, Nat.mul_comm yield]
  omega

theorem wait_of_throttled (throttled : 0 < clock.interval) (yield : Nat) :
    clock.wait yield now =
      (clock.reset (now + (clock.yieldsUntilDue yield now * yield : Nat)),
        now + (clock.yieldsUntilDue yield now * yield : Nat)) := by
  rw [wait, if_neg (Nat.ne_of_gt throttled)]

theorem le_wait (yield : Nat) : now ≤ (clock.wait yield now).2 := by
  rw [wait]
  split
  · exact le_rfl
  · exact Int.le_add_of_nonneg_right (Int.natCast_nonneg _)

/-- A wait lasts an interval from the last tick at least, and then the clock counts from its
end. -/
theorem wait_reaches {yield : Nat} (yields : 0 < yield) :
    (clock.wait yield now).1.interval = clock.interval ∧
      (clock.interval = 0 ∨
        clock.last + clock.interval ≤ (clock.wait yield now).2 ∧
          (clock.wait yield now).1.last = (clock.wait yield now).2) := by
  rcases Nat.eq_zero_or_pos clock.interval with unthrottled | throttled
  · rw [wait, if_pos unthrottled]
    exact ⟨rfl, .inl unthrottled⟩
  · have reached := (clock.yieldsUntilDue_le_iff now yields _).mp le_rfl
    rw [clock.wait_of_throttled now throttled]
    exact ⟨rfl, .inr ⟨reached, rfl⟩⟩

variable {now}

section Throttled

variable (throttled : 0 < clock.interval) (yields : 0 < yield)
include throttled yields

theorem wait_of_late (late : clock.last + clock.interval ≤ now) :
    clock.yieldsUntilDue yield now = 0 ∧ clock.wait yield now = (clock.reset now, now) := by
  have enough := clock.yieldsUntilDue_le_iff now yields 0
  have none_needed : clock.yieldsUntilDue yield now = 0 := by omega
  refine ⟨none_needed, ?_⟩
  rw [clock.wait_of_throttled now throttled, none_needed]
  simp

/-- As long as no tick is due, a wait is a yield and the rest of the wait. -/
theorem wait_of_early (early : now < clock.last + clock.interval) :
    clock.yieldsUntilDue yield now = clock.yieldsUntilDue yield (now + yield) + 1 ∧
      clock.wait yield now = clock.wait yield (now + yield) := by
  have enough (count : Nat) := clock.yieldsUntilDue_le_iff now yields count
  have enough_after (count : Nat) := clock.yieldsUntilDue_le_iff (now + yield) yields count
  have one_more (count : Nat) : (count + 1) * yield = count * yield + yield := Nat.succ_mul _ _
  have count_eq : clock.yieldsUntilDue yield now =
      clock.yieldsUntilDue yield (now + yield) + 1 := by
    have some_needed := enough 0
    have upper := enough (clock.yieldsUntilDue yield (now + yield) + 1)
    have upper_after := enough_after (clock.yieldsUntilDue yield (now + yield))
    have lower := enough_after (clock.yieldsUntilDue yield now - 1)
    have lower_before := enough (clock.yieldsUntilDue yield now - 1 + 1)
    rw [one_more] at upper lower_before
    omega
  refine ⟨count_eq, ?_⟩
  rw [clock.wait_of_throttled now throttled, clock.wait_of_throttled _ throttled, count_eq,
    one_more]
  have woken : now + ((clock.yieldsUntilDue yield (now + yield) * yield + yield : Nat) : Int) =
      now + yield + (clock.yieldsUntilDue yield (now + yield) * yield : Nat) := by omega
  rw [woken]

theorem spin_eq (passes : Nat) :
    clock.spin yield passes now =
      if clock.yieldsUntilDue yield now < passes then some (clock.wait yield now) else none := by
  induction passes generalizing now with
  | zero => rfl
  | succ passes induction =>
      have due_iff : clock.due now = true ↔ clock.last + clock.interval ≤ now := by
        rw [clock.due_iff]
        omega
      rw [spin]
      split
      · rename_i due
        have late := due_iff.mp due
        obtain ⟨none_needed, waited⟩ := clock.wait_of_late throttled yields late
        rw [none_needed, waited, if_pos (Nat.succ_pos passes)]
      · rename_i waits
        have early := Int.not_le.mp (waits ∘ due_iff.mpr)
        obtain ⟨one_more, waited⟩ := clock.wait_of_early throttled yields early
        rw [induction, one_more, waited]
        simp only [Nat.add_lt_add_iff_right]

theorem waits_yieldsUntilDue : clock.Waits yield now (clock.yieldsUntilDue yield now) where
  spin := clock.spin_eq throttled yields
  wait := clock.wait_of_throttled now throttled yield
  least := by
    have enough (count : Nat) := clock.yieldsUntilDue_le_iff now yields count
    constructor
    · have reached := (enough _).mp le_rfl
      exact Int.le_sub_left_of_add_le reached
    · intro count reached
      exact (enough count).mpr (Int.add_le_of_le_sub_left reached)
  early early := by
    have not_due := Int.lt_add_of_sub_left_lt early
    obtain ⟨one_more, -⟩ := clock.wait_of_early throttled yields not_due
    have one_less :=
      clock.yieldsUntilDue_le_iff now yields (clock.yieldsUntilDue yield (now + yield))
    rw [clock.wait_of_throttled now throttled, one_more, Nat.succ_mul]
    dsimp only
    omega
  late late := by
    obtain ⟨-, waited⟩ := clock.wait_of_late throttled yields (Int.add_le_of_le_sub_left late)
    exact congrArg Prod.snd waited

end Throttled
end Clock

namespace Run

variable {σ : Type}

/-- Iterations that have been completed.  The poll of the iteration that ended the run does not
count. -/
def completed (run : Run σ) : Nat := run.polls - if run.result.isSome then 1 else 0

/-- The device takes no time back when it is polled next. -/
def Steady (run : Run σ) (device : Device σ) : Prop := run.result = none →
  0 ≤ (device.poll run.device run.machine.processor.keypad).elapsed

/-- How a run that began at a time has kept to an interval. -/
structure Throttled (run : Run σ) (start : Int) (interval : Nat) : Prop where
  pace : run.machine.clock.interval = interval
  /-- The clock does not count from before the end of the last iteration. -/
  fresh : run.result = none → interval = 0 ∨ run.now ≤ run.machine.clock.last
  time : start + (run.completed * interval : Nat) ≤ run.now

variable {run : Run σ} {device : Device σ} {start : Int} {interval : Nat}

theorem throttled_begin (machine : Machine) (state : σ) (start : Int) :
    (Run.begin machine state start).Throttled start machine.clock.interval where
  pace := rfl
  fresh _ := .inr le_rfl
  time := by simp [completed, Run.begin]

/-- Once a poll has been answered, the clock counts from the end of the last iteration or later. -/
theorem Throttled.readied (throttled : run.Throttled start interval) (going : run.result = none)
    (steady : run.Steady device) :
    (run.readied device).machine.clock.interval = interval ∧
      run.now ≤ (run.readied device).now ∧
      (interval = 0 ∨ run.now ≤ (run.readied device).machine.clock.last) := by
  have later : run.now ≤ (run.polled device).1.now := Int.le_add_of_nonneg_right (steady going)
  rw [Run.readied]
  split
  · -- a reload starts the clock afresh, which is later still
    exact ⟨throttled.pace, later, .inr later⟩
  · exact ⟨throttled.pace, later, throttled.fresh going⟩

theorem Throttled.finish (throttled : run.Throttled start interval) (going : run.result = none)
    {last : Run σ} (pace : last.machine.clock.interval = interval)
    (polls : last.polls = run.polls + 1)
    (later : run.now ≤ last.now) (result : Except Fault Unit) :
    (last.finish device result).Throttled start interval where
  pace := pace
  fresh going := nomatch going
  time := by
    have counted : (last.finish device result).completed = run.completed := by
      simp [completed, Run.finish, emit, polls, going]
    rw [counted]
    exact throttled.time.trans later

theorem Throttled.shown (throttled : run.Throttled start interval) (going : run.result = none)
    {last : Run σ} (pace : last.machine.clock.interval = interval)
    (polls : last.polls = run.polls + 1) (going_on : last.result = none)
    (later : run.now ≤ last.now) (fresh : interval = 0 ∨ run.now ≤ last.machine.clock.last)
    (device : Device σ) {yield : Nat} (yields : 0 < yield) :
    (last.shown device yield).Throttled start interval ∧
      ((last.shown device yield).result = none →
        run.now + interval ≤ (last.shown device yield).now) := by
  have waited := last.machine.clock.wait_reaches last.now yields
  have forward := last.machine.clock.le_wait last.now yield
  rw [pace] at waited
  have made_up : run.now + interval ≤ (last.shown device yield).now := by
    have now : (last.shown device yield).now = (last.machine.clock.wait yield last.now).2 := rfl
    rw [now]
    omega
  refine ⟨⟨waited.1, fun _ => waited.2.imp_right fun reached => le_of_eq reached.2.symm, ?_⟩,
    fun _ => made_up⟩
  have counted : (last.shown device yield).completed = run.completed + 1 := by
    have ended : (last.shown device yield).result = none := going_on
    have counted : (last.shown device yield).polls = run.polls + 1 := polls
    simp [completed, ended, counted, going]
  have time := throttled.time
  rw [counted, Nat.succ_mul]
  omega

theorem Throttled.iterate (throttled : run.Throttled start interval) (going : run.result = none)
    (steady : run.Steady device) {yield : Nat} (yields : 0 < yield) :
    (run.iterate device yield).Throttled start interval ∧
      ((run.iterate device yield).result = none →
        run.now + interval ≤ (run.iterate device yield).now) := by
  by_cases quits : (run.polled device).2 = .quit
  · rw [iterate_of_quit yield quits]
    refine ⟨throttled.finish going ?_ rfl ?_ _, fun going => nomatch going⟩
    · exact throttled.pace
    · exact Int.le_add_of_nonneg_right (steady going)
  · rw [iterate_of_ne_quit yield quits]
    obtain ⟨pace, later, fresh⟩ := throttled.readied going steady
    have polls : (run.readied device).stepped.polls = run.polls + 1 := run.polls_readied device
    have going_on : (run.readied device).stepped.result = none :=
      (run.result_readied device).trans going
    -- the step takes no time and leaves the clock alone
    have clock : (run.readied device).stepped.machine.clock = (run.readied device).machine.clock :=
      Machine.clock_step _ _
    rw [← clock] at pace fresh
    have later : run.now ≤ (run.readied device).stepped.now := later
    cases outcome : ((run.readied device).machine.step (run.readied device).now).2 with
    | error fault =>
        rw [stepAndPresent_of_error device yield outcome]
        exact ⟨throttled.finish going pace polls later _, fun going => nomatch going⟩
    | ok directive =>
        rw [stepAndPresent_of_ok device yield outcome]
        exact throttled.shown going pace polls going_on later fresh device yields

end Run

namespace Machine

open Run

/-- A run against a device that takes no time back keeps to the interval of its clock. -/
theorem throttled_run {σ : Type} (machine : Machine) {device : Device σ} {state : σ} {yield : Nat}
    {start : Int} (yields : 0 < yield)
    (steady : ∀ polls, (machine.run device state yield start polls).Steady device) (polls : Nat) :
    (machine.run device state yield start polls).Throttled start machine.clock.interval := by
  induction polls with
  | zero => exact throttled_begin machine state start
  | succ polls induction =>
      by_cases going : (machine.run device state yield start polls).result = none
      · rw [run_succ_of_going machine device state yield start going]
        exact (induction.iterate going (steady polls) yields).1
      · have ended := Option.isSome_iff_ne_none.mpr going
        rwa [machine.run_of_ended device state yield start ended (Nat.le_succ polls)]

/-- Throttling.  A wait is left after the least number of yields that makes up the interval.  In a
run against a device that takes no time back, so many completed iterations have taken as many
intervals at least, and each of them has taken an interval. -/
theorem run_throttled :
    (∀ (clock : Clock) (yield : Nat) (now : Int), 0 < clock.interval → 0 < yield →
      ∃ yields, clock.Waits yield now yields) ∧
    ∀ {σ : Type} (machine : Machine) (device : Device σ) (state : σ) (yield : Nat) (start : Int),
      0 < yield →
      (∀ polls, (machine.run device state yield start polls).Steady device) →
      ∀ polls,
        let run := machine.run device state yield start polls
        let next := machine.run device state yield start (polls + 1)
        start + (run.completed * machine.clock.interval : Nat) ≤ run.now ∧
          (next.result = none → run.now + machine.clock.interval ≤ next.now) := by
  refine ⟨fun clock yield now throttled yields =>
    ⟨_, clock.waits_yieldsUntilDue throttled yields⟩, ?_⟩
  intro σ machine device state yield start yields steady polls run next
  have throttled := machine.throttled_run yields steady polls
  refine ⟨throttled.time, ?_⟩
  intro goes_on
  have going : run.result = none := by
    by_contra ended
    have still : next = run := machine.run_of_ended device state yield start
      (Option.isSome_iff_ne_none.mpr ended) (Nat.le_succ polls)
    exact ended (still ▸ goes_on)
  have iterated : next = run.iterate device yield :=
    machine.run_succ_of_going device state yield start going
  rw [iterated] at goes_on ⊢
  exact (throttled.iterate going (steady polls) yields).2 goes_on

theorem steady_scripted (machine : Machine) {script : List Cue}
    (forward : ∀ cue ∈ script, 0 ≤ cue.elapsed) (yield : Nat) (start : Int) (polls : Nat) :
    (machine.run Device.scripted script yield start polls).Steady Device.scripted := by
  intro going
  have rest := machine.device_run_scripted yield start going
  rw [rest]
  cases upcoming : script.drop polls with
  | nil => exact le_rfl
  | cons cue later =>
      have member : cue ∈ script.drop polls := upcoming ▸ List.mem_cons_self
      exact forward cue (List.mem_of_mem_drop member)

/-- Polls that take longer than the interval or ask for a reload do not make a run hurry, nor do
yields that do not fit the interval. -/
theorem run_throttled_slow :
    let machine := create 10 1 0
    let script : List Cue := [{ elapsed := 3 }, { elapsed := 25, control := .reload }, {}]
    (Clock.mk 0 10).wait 4 3 = (⟨11, 10⟩, 11) ∧ (∃ yields, (Clock.mk 0 10).Waits 4 3 yields) ∧
      ∀ polls,
        let run := machine.run Device.scripted script 4 0 polls
        run.Steady Device.scripted ∧ ((run.completed * 10 : Nat) : Int) ≤ run.now := by
  intro machine script
  have waits := run_throttled.1 ⟨0, 10⟩ 4 3 (by decide) (by decide)
  have forward : ∀ cue ∈ script, 0 ≤ cue.elapsed := by decide
  have steady := machine.steady_scripted forward 4 0
  refine ⟨rfl, waits, fun polls => ⟨steady polls, ?_⟩⟩
  have kept := run_throttled.2 machine Device.scripted script 4 0 (by decide) steady polls
  rw [← Int.zero_add ((_ : Nat) : Int)]
  exact kept.1

end Machine
end Chip8
