import Chip8.Listing
import Chip8.Key
import Chip8.Theme

/-!
# Log records

What the machine and the terminal report while they run.  A record is kept as what it tells;
its level and its wording are functions of that.
-/

namespace Chip8

/-- How much a record matters. -/
inductive LogLevel where
  /-- Every instruction. -/
  | trace
  /-- Details. -/
  | debug
  /-- The course of a run. -/
  | info
  /-- Something unexpected that does no harm. -/
  | warn
  /-- A failure. -/
  | error
deriving DecidableEq, Repr

/-- Something that happened. -/
inductive LogRecord where
  /-- A machine was made with this seed. -/
  | seeded (seed : UInt64)
  /-- A program is too long and is cut to what fits. -/
  | truncating (size capacity : Nat)
  | loaded (size : Nat)
  /-- A program with a name is about to be loaded. -/
  | loading (name : String)
  | reloading
  | executing (pc : UInt16) (op : Opcode)
  /-- A call into host code is passed over. -/
  | ignoringRoutine (pc address : UInt16)
  | unknownOpcode (pc : UInt16) (op : Opcode)
  /-- The machine has stopped. -/
  | faulted (pc : UInt16) (fault : Fault)
  /-- The terminal ends a run. -/
  | stopping (cycles : Nat)
  /-- The terminal changes a key. -/
  | keyChanged (cycle : Nat) (key : Key) (pressed : Bool)
  | themeChanged (theme : Theme)
  | buzzerOn
  | buzzerOff
  /-- A frame could not be written. -/
  | drawFailed (cause : IoError)
  /-- The bell could not be written. -/
  | bellFailed (cause : IoError)
deriving DecidableEq, Repr

namespace LogRecord

/-- The level of a record. -/
def level : LogRecord → LogLevel
  | executing .. => .trace
  | seeded _ | loaded _ | ignoringRoutine .. | keyChanged .. | buzzerOff => .debug
  | loading _ | reloading | stopping _ | themeChanged _ | buzzerOn => .info
  | truncating .. | unknownOpcode .. => .warn
  | faulted .. | drawFailed _ | bellFailed _ => .error

/-- The wording of a record. -/
def text : LogRecord → String
  | seeded seed => "random seed " ++ toString seed.toNat
  | truncating size capacity =>
      "program is " ++ toString size ++ " bytes, truncating to " ++ toString capacity
  | loaded size => "loaded " ++ toString size ++ " byte program"
  | loading name => "loading " ++ name
  | reloading => "reloading program"
  | executing pc op => Listing.instructionLine pc.toNat op
  | ignoringRoutine pc address =>
      Hex.text 4 pc.toNat ++ ": ignoring machine code routine at " ++ Hex.text 3 address.toNat
  | unknownOpcode pc op => Hex.text 4 pc.toNat ++ ": unknown opcode " ++ Hex.text 4 op.word.toNat
  | faulted pc fault => Hex.text 4 pc.toNat ++ ": " ++ fault.message
  | stopping cycles => "stopping after " ++ toString cycles ++ " cycles"
  | keyChanged cycle key pressed =>
      "cycle " ++ toString cycle ++ ": key " ++ key.name ++ (if pressed then " down" else " up")
  | themeChanged theme => "switched to " ++ theme.title ++ " theme"
  | buzzerOn => "buzzer on"
  | buzzerOff => "buzzer off"
  | drawFailed cause => "failed to draw display: " ++ cause.message
  | bellFailed cause => "failed to ring bell: " ++ cause.message

end LogRecord
end Chip8
