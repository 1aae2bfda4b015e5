import Chip8.Device
import Chip8.Machine

/-!
# Runs

A machine runs against a device in iterations: poll the device, make one step, present the picture
and the buzzer if they changed, and wait for the clock.  A run keeps the history of what it asked
of the device.  It ends when the device asks to quit or the machine stops, and then turns off a
buzzer that is still on.
-/

namespace Chip8

/-- An output with the number of the poll that it followed, counted from one. -/
structure RunEvent where
  /-- Polls made so far. -/
  poll : Nat
  output : Output
deriving DecidableEq, Repr

/-- A run of a machine against a device. -/
structure Run (σ : Type) where
  machine : Machine
  device : σ
  now : Int
  /-- Polls made so far. -/
  polls : Nat
  /-- Outputs in order. -/
  events : Array RunEvent
  /-- Records in order. -/
  records : Array LogRecord
  /-- How the run ended, if it has. -/
  result : Option (Except Fault Unit)

namespace Machine

/-- The outputs that present the picture, if it was written, and the buzzer, if it has to change.
The buzzer sounds while the sound timer counts. -/
def presentation (machine : Machine) : List Output :=
  let sounding := machine.processor.soundTimer != 0
  (if machine.processor.repaint then [.draw machine.processor.display] else []) ++
    (if sounding != machine.processor.buzzing then [.buzz sounding] else [])

/-- The machine after a presentation. -/
def presented (machine : Machine) : Machine :=
  { machine with
    processor.repaint := false
    processor.buzzing := machine.processor.soundTimer != 0 }

/-- The output that ends a run: a buzzer that is on goes off. -/
def silencing (machine : Machine) : List Output :=
  if machine.processor.buzzing then [.buzz false] else []

/-- The machine with its buzzer off. -/
def silenced (machine : Machine) : Machine := { machine with processor.buzzing := false }

end Machine

namespace Run

/-- A run about to begin: both clocks start afresh. -/
def begin {σ : Type} (machine : Machine) (device : σ) (now : Int) : Run σ where
  machine := machine.resetClocks now
  device := device
  now := now
  polls := 0
  events := #[]
  records := #[]
  result := none

/-- Ask outputs of the device, keeping the history. -/
def emit {σ : Type} (run : Run σ) (device : Device σ) (outputs : List Output) : Run σ :=
  let reaction := device.reactAll run.device outputs
  { run with
    device := reaction.device
    events := run.events ++ outputs.map (RunEvent.mk run.polls)
    records := run.records ++ reaction.records }

/-- End the run. -/
def finish {σ : Type} (run : Run σ) (device : Device σ) (result : Except Fault Unit) : Run σ :=
  let silent := run.emit device run.machine.silencing
  { silent with machine := run.machine.silenced, result := some result }

/-- Load the program again. -/
def reload {σ : Type} (run : Run σ) : Run σ :=
  { run with
    machine := run.machine.reload run.now
    records := run.records ++ (LogRecord.reloading :: run.machine.reloadRecords) }

/-- Make one step, present what changed and wait for the clock.  A fault ends the run. -/
def stepAndPresent {σ : Type} (run : Run σ) (device : Device σ) (yield : Nat) : Run σ :=
  let (machine, result) := run.machine.step run.now
  let stepped :=
    { run with machine, records := run.records ++ run.machine.stepRecords run.now }
  match result with
  | .error fault => stepped.finish device (.error fault)
  | .ok _ =>
      let shown := stepped.emit device machine.presentation
      let presented := machine.presented
      let (clock, now) := presented.clock.wait yield run.now
      { shown with machine := { presented with clock }, now }

/-- Poll the device. -/
def polled {σ : Type} (run : Run σ) (device : Device σ) : Run σ × Control :=
  let poll := device.poll run.device run.machine.processor.keypad
  ({ run with
      machine := run.machine.withKeypad poll.keypad
      device := poll.device
      now := run.now + poll.elapsed
      polls := run.polls + 1
      records := run.records ++ poll.records },
    poll.control)

/-- One iteration of a run that has not ended. -/
def iterate {σ : Type} (run : Run σ) (device : Device σ) (yield : Nat) : Run σ :=
  match run.polled device with
  | (run, .quit) => run.finish device (.ok ())
  | (run, .reload) => run.reload.stepAndPresent device yield
  | (run, .proceed) => run.stepAndPresent device yield

/-- Iterate until the run ends, with at most `bound` polls. -/
def complete {σ : Type} (run : Run σ) (device : Device σ) (yield : Nat) : Nat → Run σ
  | 0 => run
  | bound + 1 =>
      match run.result with
      | some _ => run
      | none => (run.iterate device yield).complete device yield bound

end Run

namespace Machine

/-- Run a machine against a device, waiting in yields of a length, with at most `bound` polls. -/
def run {σ : Type} (machine : Machine) (device : Device σ) (state : σ) (yield : Nat) (now : Int)
    (bound : Nat) : Run σ :=
  (Run.begin machine state now).complete device yield bound

end Machine
end Chip8
