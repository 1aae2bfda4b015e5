import Chip8.Device

/-!
# Scripted devices

A device that answers polls from a script, and quits when the script is over.  It shows nothing
and is silent.
-/

namespace Chip8

/-- What a scripted device does when it is polled. -/
structure Cue where
  /-- Nanoseconds that the poll takes by the clock, which it may set back. -/
  elapsed : Int := 0
  /-- Whether all keys are released first. -/
  release : Bool := false
  /-- Changes of keys in order. -/
  keys : List (UInt8 × Bool) := []
  /-- What the device asks for. -/
  control : Control := .proceed
deriving DecidableEq, Repr

namespace Cue

/-- The keys after a cue. -/
def applyTo (cue : Cue) (keypad : Keypad) : Keypad :=
  cue.keys.foldl (fun keypad (number, pressed) => keypad.set number pressed)
    (if cue.release then .empty else keypad)

end Cue

namespace Device

/-- The device that plays a script, whose state is the part of the script still to come. -/
def scripted : Device (List Cue) where
  poll script keypad :=
    match script with
    | [] => ⟨[], keypad, .quit, 0, []⟩
    | cue :: rest => ⟨rest, cue.applyTo keypad, cue.control, cue.elapsed, []⟩
  draw script _ := ⟨script, []⟩
  buzz script _ := ⟨script, []⟩

end Device
end Chip8
