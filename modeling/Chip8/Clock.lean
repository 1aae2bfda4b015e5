/-!
# Clocks

A point in time is an integer, the nanoseconds from the start of the program.  A clock remembers
the last tick and the interval between ticks.  It never catches up: however much time has passed,
one tick is reported, and the next is due one interval later.  Waiting for a clock gives time away
in yields of a fixed length until the next tick is due.
-/

namespace Chip8

/-- Nanoseconds in a second. -/
def nanosecondsPerSecond : Nat := 1000000000

/-- Ticks per second of the delay and sound timers. -/
def timerFrequency : Nat := 60

/-- The interval of a frequency in hertz.  Frequency zero stands for no throttling at all. -/
def intervalOfFrequency (frequency : Nat) : Nat :=
  if frequency = 0 then 0 else nanosecondsPerSecond / frequency

/-- A source of ticks. -/
structure Clock where
  /-- Time of the last tick. -/
  last : Int
  /-- Nanoseconds between ticks. -/
  interval : Nat
deriving DecidableEq, Repr, Inhabited

namespace Clock

/-- The clock of the delay and sound timers. -/
def timer (now : Int) : Clock := ⟨now, intervalOfFrequency timerFrequency⟩

/-- Start counting afresh. -/
def reset (clock : Clock) (now : Int) : Clock := { clock with last := now }

/-- Time since the last tick, zero if the last tick is yet to come. -/
def elapsed (clock : Clock) (now : Int) : Nat := (now - clock.last).toNat

/-- Whether a tick is due. -/
def due (clock : Clock) (now : Int) : Bool := clock.interval ≤ clock.elapsed now

/-- A tick is due once an interval has passed since the last one, and always without an
interval. -/
theorem due_iff (clock : Clock) (now : Int) :
    clock.due now = true ↔ clock.interval = 0 ∨ clock.last + clock.interval ≤ now := by
  rw [due, decide_eq_true_iff, elapsed]
  omega

/-- The number of yields of the given length until the next tick is due. -/
def yieldsUntilDue (clock : Clock) (yield : Nat) (now : Int) : Nat :=
  ((clock.last + clock.interval - now).toNat + (yield - 1)) / yield

/-- Wait for the next tick by yielding, then start counting afresh.  Answers the clock and the
time at which the wait ends.  A clock without an interval does not wait. -/
def wait (clock : Clock) (yield : Nat) (now : Int) : Clock × Int :=
  if clock.interval = 0 then (clock, now)
  else
    let woken := now + (clock.yieldsUntilDue yield now * yield : Nat)
    (clock.reset woken, woken)

end Clock
end Chip8
