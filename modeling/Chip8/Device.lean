import Chip8.Display
import Chip8.Keypad
import Chip8.Log

/-!
# Devices

What a machine is attached to while it runs: something that refreshes the keys, shows pictures and
sounds a buzzer.  A device is given by its reactions; its own state is a value that the reactions
take and answer.
-/

namespace Chip8

/-- What a device asks of the run loop when it is polled. -/
inductive Control where
  /-- Go on. -/
  | proceed
  /-- Start the program afresh, then go on. -/
  | reload
  /-- End the run. -/
  | quit
deriving DecidableEq, Repr

/-- The answer of a device to a poll. -/
structure Poll (σ : Type) where
  /-- The device after the poll. -/
  device : σ
  /-- The keys after the poll. -/
  keypad : Keypad
  /-- What the device asks for. -/
  control : Control
  /-- Nanoseconds that the poll took by the clock, which may have been set back. -/
  elapsed : Int
  /-- What the device reported. -/
  records : List LogRecord

/-- The answer of a device to output. -/
structure Reaction (σ : Type) where
  /-- The device after the output. -/
  device : σ
  /-- What the device reported. -/
  records : List LogRecord

/-- The reactions of a device whose state is a `σ`. -/
structure Device (σ : Type) where
  /-- Refresh the keys. -/
  poll : σ → Keypad → Poll σ
  /-- Show a picture. -/
  draw : σ → Display → Reaction σ
  /-- Turn the buzzer on or off. -/
  buzz : σ → Bool → Reaction σ

/-- Output that a machine asks of its device. -/
inductive Output where
  | draw (picture : Display)
  | buzz (on : Bool)
deriving DecidableEq, Repr

namespace Device

/-- The reaction of a device to one output. -/
def react {σ : Type} (device : Device σ) (state : σ) : Output → Reaction σ
  | .draw picture => device.draw state picture
  | .buzz on => device.buzz state on

/-- The reaction of a device to outputs one after the other. -/
def reactAll {σ : Type} (device : Device σ) (state : σ) : List Output → Reaction σ
  | [] => ⟨state, []⟩
  | output :: rest =>
      let first := device.react state output
      let others := device.reactAll first.device rest
      ⟨others.device, first.records ++ others.records⟩

theorem reactAll_append {σ : Type} (device : Device σ) (state : σ) (first second : List Output) :
    device.reactAll state (first ++ second) =
      let before := device.reactAll state first
      let after := device.reactAll before.device second
      ⟨after.device, before.records ++ after.records⟩ := by
  induction first generalizing state with
  | nil => rfl
  | cons output rest ih => simp [reactAll, ih]

/-- A device whose polls each take some nanoseconds longer, as its state has it. -/
def paced {σ : Type} (device : Device σ) (pace : σ → Nat) : Device σ where
  poll state keypad :=
    let poll := device.poll state keypad
    { poll with elapsed := poll.elapsed + pace state }
  draw := device.draw
  buzz := device.buzz

end Device
end Chip8
