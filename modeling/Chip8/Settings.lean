import Chip8.Key
import Chip8.Machine
import Chip8.Theme

/-!
# Settings

What a user can set for a run: the machine, the colours, the length of the run, and a script of
key changes and theme changes.  Settings in use have both scripts in the order of their cycles;
key changes of one cycle keep the order in which they were written.
-/

namespace Chip8

/-- A scripted change of a key. -/
structure KeyChange where
  /-- Cycle at which the key changes. -/
  cycle : Nat
  key : Key
  /-- Whether it goes down. -/
  pressed : Bool
deriving DecidableEq, Repr, Inhabited

/-- Everything that a configuration sets. -/
structure Settings where
  /-- How the machine is made. -/
  machine : MachineSettings := {}
  /-- The theme to begin with. -/
  theme : Theme := .plain
  /-- Cycles after which a run ends, if it is to end. -/
  maxCycles : Option Nat := none
  /-- Changes of keys. -/
  keys : List KeyChange := []
  /-- Cycles at which the next theme is taken. -/
  themeChanges : List Nat := []
  /-- Whether to draw in colour. -/
  colour : Bool := false
deriving DecidableEq, Repr, Inhabited

namespace Settings

/-- The settings with both scripts in the order of their cycles. -/
def ordered (settings : Settings) : Settings :=
  { settings with
    keys := settings.keys.mergeSort fun left right => left.cycle ≤ right.cycle
    themeChanges := settings.themeChanges.mergeSort }

end Settings
end Chip8
