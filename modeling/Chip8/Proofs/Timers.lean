import Chip8.Proofs.Loading
import Mathlib.Data.List.Chain

/-!
# The pace of the timers

The timers are looked at again and again, at whatever times.  A look that finds a tick due counts
both timers down once and starts their clock afresh; any other look changes nothing.  So the ticks
in a sequence of looks are an interval apart, and all that such a sequence leaves different depends
on how many ticks there were and on when the last of them was.
-/

namespace Chip8

theorem toNat_ofNat_sub (timer : UInt8) (count : Nat) :
    (UInt8.ofNat (timer.toNat - count)).toNat = timer.toNat - count :=
  UInt8.toNat_ofNat_of_lt (Nat.lt_of_le_of_lt (Nat.sub_le _ _) timer.toNat_lt)

theorem Processor.countDown_eq (processor : Processor) :
    processor.countDown =
      { processor with
        delayTimer := .ofNat (processor.delayTimer.toNat - 1)
        soundTimer := .ofNat (processor.soundTimer.toNat - 1) } := by
  have counted (timer : UInt8) :
      (if timer = 0 then 0 else timer - 1) = .ofNat (timer.toNat - 1) := by
    apply UInt8.toNat_inj.mp
    rw [toNat_ofNat_sub]
    split
    · rename_i rests
      rw [rests]
      rfl
    · rename_i counts
      have positive : timer.toNat ≠ 0 := fun zero => counts (UInt8.toNat_inj.mp zero)
      exact UInt8.toNat_sub_of_le _ _ (UInt8.le_iff_toNat_le.mpr (Nat.pos_of_ne_zero positive))
  rw [countDown, counted, counted]

namespace Machine

/-- The times at which some looks at the timers find a tick due. -/
def tickTimes (machine : Machine) : List Int → List Int
  | [] => []
  | now :: later =>
      let (after, ticked) := machine.tick now
      if ticked then now :: after.tickTimes later else after.tickTimes later

/-- The machine after ticks at some times. -/
def ticked (machine : Machine) (ticks : List Int) : Machine :=
  { machine with
    processor :=
      { machine.processor with
        delayTimer := .ofNat (machine.processor.delayTimer.toNat - ticks.length)
        soundTimer := .ofNat (machine.processor.soundTimer.toNat - ticks.length) }
    timer := machine.timer.reset (ticks.getLastD machine.timer.last) }

variable {machine : Machine} {now : Int}

theorem ticked_nil (machine : Machine) : machine.ticked [] = machine := by
  simp [ticked, Clock.reset]

theorem ticked_cons (machine : Machine) (now : Int) (ticks : List Int) :
    machine.ticked (now :: ticks) = (machine.ticked [now]).ticked ticks := by
  have counted (timer : UInt8) :
      UInt8.ofNat (timer.toNat - (now :: ticks).length) =
        .ofNat ((UInt8.ofNat (timer.toNat - 1)).toNat - ticks.length) := by
    rw [toNat_ofNat_sub, List.length_cons, Nat.sub_sub, Nat.add_comm]
  simp only [ticked, Clock.reset, counted, List.getLastD_cons, List.length_singleton]
  rfl

theorem tick_of_due (due : machine.timer.due now = true) :
    machine.tick now = (machine.ticked [now], true) := by
  rw [tick, if_pos due, Processor.countDown_eq]
  rfl

theorem tick_of_not_due (rests : machine.timer.due now = false) :
    machine.tick now = (machine, false) := by
  rw [tick, rests]
  rfl

theorem tickTimes_of_due (due : machine.timer.due now = true) (later : List Int) :
    machine.tickTimes (now :: later) = now :: (machine.ticked [now]).tickTimes later := by
  rw [tickTimes, tick_of_due due]
  rfl

theorem tickTimes_of_not_due (rests : machine.timer.due now = false) (later : List Int) :
    machine.tickTimes (now :: later) = machine.tickTimes later := by
  rw [tickTimes, tick_of_not_due rests]
  rfl

theorem performAll_tick (machine : Machine) (times : List Int) :
    machine.performAll (times.map .tick) = machine.ticked (machine.tickTimes times) := by
  induction times generalizing machine with
  | nil => exact machine.ticked_nil.symm
  | cons now later induction =>
      rw [List.map_cons, performAll_cons, perform]
      cases due : machine.timer.due now with
      | true => rw [tickTimes_of_due due, ticked_cons, tick_of_due due, induction]
      | false => rw [tickTimes_of_not_due due, tick_of_not_due due, induction]

/-! ### How far ticks are apart -/

section Spacing

variable (positive : 0 < machine.timer.interval)
include positive

theorem due_iff_le :
    machine.timer.due now = true ↔ machine.timer.last + machine.timer.interval ≤ now := by
  rw [Clock.due_iff]
  omega

/-- Each tick comes an interval after the one before it, and the first of them an interval after
the last tick of the timers. -/
theorem spaced_tickTimes (times : List Int) :
    (machine.timer.last :: machine.tickTimes times).IsChain fun earlier later =>
      earlier + (machine.timer.interval : Int) ≤ later := by
  induction times generalizing machine with
  | nil => exact List.isChain_singleton _
  | cons now later induction =>
      cases due : machine.timer.due now with
      | true =>
          have positive_after : 0 < (machine.ticked [now]).timer.interval := positive
          rw [tickTimes_of_due due, List.isChain_cons_cons]
          exact ⟨(due_iff_le positive).mp due, induction positive_after⟩
      | false =>
          rw [tickTimes_of_not_due due]
          exact induction positive

/-- There is room for so many ticks until a time. -/
theorem length_tickTimes_mul_le {times : List Int} {latest : Int}
    (until_latest : ∀ time ∈ times, time ≤ latest) :
    (machine.tickTimes times).length * machine.timer.interval ≤
      (latest - machine.timer.last).toNat := by
  induction times generalizing machine with
  | nil => simp [tickTimes]
  | cons now later induction =>
      have later_until : ∀ time ∈ later, time ≤ latest :=
        fun time member => until_latest time (List.mem_cons_of_mem _ member)
      cases due : machine.timer.due now with
      | true =>
          have positive_after : 0 < (machine.ticked [now]).timer.interval := positive
          have room : ((machine.ticked [now]).tickTimes later).length * machine.timer.interval ≤
              (latest - now).toNat := induction positive_after later_until
          have waited := (due_iff_le positive).mp due
          have now_le := until_latest now List.mem_cons_self
          rw [tickTimes_of_due due, List.length_cons, Nat.succ_mul]
          omega
      | false =>
          rw [tickTimes_of_not_due due]
          exact induction positive later_until

end Spacing

/-- What one look at the timers does: it counts them down once if a tick is due, however late it
is, and changes nothing otherwise. -/
structure CountsOnce (machine : Machine) (now : Int) : Prop where
  due : (machine.tick now).2 = true ↔ machine.timer.last + 16666666 ≤ now
  ticks : (machine.tick now).2 = true → (machine.tick now).1 = machine.ticked [now]
  rests : (machine.tick now).2 = false → (machine.tick now).1 = machine

/-- What a sequence of looks at the timers does. -/
structure KeepsTime (machine : Machine) (times : List Int) : Prop where
  looks : ∀ earlier now later, times = earlier ++ now :: later →
    (machine.performAll (earlier.map .tick)).CountsOnce now
  /-- The first tick counts from the last one before the sequence. -/
  spaced : (machine.timer.last :: machine.tickTimes times).IsChain fun earlier later =>
    earlier + 16666666 ≤ later
  increasing : (machine.tickTimes times).Pairwise (· < ·)
  delayTimer : (machine.performAll (times.map .tick)).processor.delayTimer.toNat =
    machine.processor.delayTimer.toNat - (machine.tickTimes times).length
  soundTimer : (machine.performAll (times.map .tick)).processor.soundTimer.toNat =
    machine.processor.soundTimer.toNat - (machine.tickTimes times).length
  bounded : ∀ latest, (∀ time ∈ times, time ≤ latest) →
    (machine.tickTimes times).length ≤ (latest - machine.timer.last).toNat / 16666666

theorem countsOnce (pace : machine.timer.interval = 16666666) (now : Int) :
    machine.CountsOnce now := by
  have positive : 0 < machine.timer.interval := by omega
  have due_iff : machine.timer.due now = true ↔ _ := due_iff_le positive
  rw [pace] at due_iff
  cases due : machine.timer.due now with
  | true =>
      rw [due] at due_iff
      constructor <;> rw [tick_of_due due]
      · exact due_iff
      · exact fun _ => rfl
      · exact fun rests => nomatch rests
  | false =>
      rw [due] at due_iff
      constructor <;> rw [tick_of_not_due due]
      · exact due_iff
      · exact fun ticks => nomatch ticks
      · exact fun _ => rfl

/-- The timers keep time.  Every machine that can be reached has them at the same pace, and at that
pace ticks are an interval apart, are not caught up, and count down to zero and no further, however
they are looked at. -/
theorem timers_keep_time :
    (∀ machine : Machine, machine.Reachable → machine.timer.interval = 16666666) ∧
      ∀ machine : Machine, machine.timer.interval = 16666666 →
        ∀ times, machine.KeepsTime times := by
  refine ⟨fun _ reachable => reachable.timer, fun machine pace times => ?_⟩
  have positive : 0 < machine.timer.interval := by omega
  have spaced := spaced_tickTimes positive times
  rw [pace] at spaced
  constructor
  · rintro earlier now later -
    rw [performAll_tick]
    have pace_after : (machine.ticked (machine.tickTimes earlier)).timer.interval = 16666666 := pace
    exact countsOnce pace_after now
  · exact spaced
  · have increasing := spaced.imp (S := (· < ·)) fun _ _ apart => by omega
    exact increasing.pairwise.of_cons
  · rw [performAll_tick]
    exact toNat_ofNat_sub _ _
  · rw [performAll_tick]
    exact toNat_ofNat_sub _ _
  · intro latest until_latest
    rw [Nat.le_div_iff_mul_le (by decide), ← pace]
    exact length_tickTimes_mul_le positive until_latest

/-- Of two looks at the time of two ticks only the first finds one, and the next tick comes an
interval after it. -/
theorem timers_keep_time_late :
    let start := create 0 1 0
    let machine : Machine :=
      { start with processor := { start.processor with delayTimer := 10, soundTimer := 1 } }
    let times := [5000000, 33333332, 33333332, -7, 49999998]
    let after := machine.performAll (times.map .tick)
    machine.timer.interval = 16666666 ∧ machine.tickTimes times = [33333332, 49999998] ∧
      after.processor.delayTimer.toNat = 8 ∧ after.processor.soundTimer.toNat = 0 := by
  intro start machine times after
  have pace : machine.timer.interval = 16666666 :=
    timers_keep_time.1 start (reachable_create 0 1 0)
  have keeps := timers_keep_time.2 machine pace times
  have ticks : machine.tickTimes times = [33333332, 49999998] := rfl
  refine ⟨pace, ticks, ?_, ?_⟩
  · rw [keeps.delayTimer, ticks]
    rfl
  · rw [keeps.soundTimer, ticks]
    rfl

end Machine
end Chip8
