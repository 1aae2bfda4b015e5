import Chip8.Device
import Chip8.Frame
import Chip8.Settings

/-!
# The terminal

A device that writes frames and bells to a text output and replays a script of key changes and
theme changes.  Polls are counted in cycles; each poll first applies what the script holds for the
cycles up to the current one.
-/

namespace Chip8

/-- A text output that may stop accepting writes. -/
structure Screen where
  /-- Writes still accepted, or no bound. -/
  remaining : Option Nat := none
  /-- Text accepted so far. -/
  written : String := ""
deriving DecidableEq, Repr, Inhabited

namespace Screen

/-- The refusal of an output that accepts no more. -/
def refusal : IoError := .other "device closed"

/-- Write to the output, or be refused. -/
def write? (screen : Screen) (text : String) : Option Screen :=
  match screen.remaining with
  | none => some { screen with written := screen.written ++ text }
  | some 0 => none
  | some (remaining + 1) =>
      some { remaining := some remaining, written := screen.written ++ text }

end Screen

/-- The state of the terminal. -/
structure Terminal where
  /-- Where frames and bells go. -/
  screen : Screen
  theme : Theme
  colour : Bool
  /-- Key changes to come, in the order of their cycles. -/
  keys : List KeyChange
  /-- Theme changes to come, in the order of their cycles. -/
  themeChanges : List Nat
  /-- The picture drawn last, for drawing it in another theme. -/
  picture : Display
  drawn : Bool
  /-- Cycles after which to quit. -/
  maxCycles : Option Nat
  /-- Polls answered so far. -/
  cycle : Nat
deriving DecidableEq, Repr, Inhabited

namespace Terminal

/-- A terminal with the given settings, which are to have their scripts in order. -/
def start (settings : Settings) (screen : Screen) : Terminal where
  screen := screen
  theme := settings.theme
  colour := settings.colour
  keys := settings.keys
  themeChanges := settings.themeChanges
  picture := .blank
  drawn := false
  maxCycles := settings.maxCycles
  cycle := 0

/-- The character that rings the bell. -/
def bell : String := "\x07"

/-- Write the current picture as a frame. -/
def writeFrame (terminal : Terminal) : Reaction Terminal :=
  match terminal.screen.write? (Frame.text terminal.theme terminal.colour terminal.picture) with
  | some screen => ⟨{ terminal with screen }, []⟩
  | none => ⟨terminal, [.drawFailed Screen.refusal]⟩

/-- Take the next theme.  A coloured picture that was drawn is drawn again. -/
def changeTheme (terminal : Terminal) : Reaction Terminal :=
  let changed := { terminal with theme := terminal.theme.next }
  if changed.colour && changed.drawn then
    let reaction := changed.writeFrame
    ⟨reaction.device, .themeChanged changed.theme :: reaction.records⟩
  else ⟨changed, [.themeChanged changed.theme]⟩

/-- Take the next theme a number of times. -/
def changeThemes (terminal : Terminal) : Nat → Reaction Terminal
  | 0 => ⟨terminal, []⟩
  | count + 1 =>
      let first := terminal.changeTheme
      let others := first.device.changeThemes count
      ⟨others.device, first.records ++ others.records⟩

/-- Key changes that are due: those at the head of the script up to the current cycle. -/
def dueKeys (terminal : Terminal) : List KeyChange :=
  terminal.keys.takeWhile fun event => event.cycle ≤ terminal.cycle

/-- Theme changes that are due. -/
def dueThemeChanges (terminal : Terminal) : List Nat :=
  terminal.themeChanges.takeWhile fun cycle => cycle ≤ terminal.cycle

/-- Apply key changes in order. -/
def applyKeys (keypad : Keypad) (events : List KeyChange) : Keypad :=
  events.foldl (fun keypad event => keypad.set event.key.toByte event.pressed) keypad

/-- Whether the run has had all its cycles. -/
def exhausted (terminal : Terminal) : Bool :=
  match terminal.maxCycles with
  | some maxCycles => maxCycles ≤ terminal.cycle
  | none => false

/-- Answer a poll: quit when the cycles are used up, else apply what is due and count the cycle. -/
def poll (terminal : Terminal) (keypad : Keypad) : Poll Terminal :=
  if terminal.exhausted then
    ⟨terminal, keypad, .quit, 0, [.stopping (terminal.maxCycles.getD 0)]⟩
  else
    let keys := terminal.dueKeys
    let changes := terminal.dueThemeChanges
    let scripted :=
      { terminal with
        keys := terminal.keys.drop keys.length
        themeChanges := terminal.themeChanges.drop changes.length }
    let themed := scripted.changeThemes changes.length
    { device := { themed.device with cycle := terminal.cycle + 1 }
      keypad := applyKeys keypad keys
      control := .proceed
      elapsed := 0
      records :=
        keys.map (fun event => .keyChanged terminal.cycle event.key event.pressed) ++
          themed.records }

/-- Show a picture. -/
def draw (terminal : Terminal) (picture : Display) : Reaction Terminal :=
  { terminal with picture, drawn := true }.writeFrame

/-- Ring the bell when the buzzer goes on. -/
def buzz (terminal : Terminal) (on : Bool) : Reaction Terminal :=
  if on then
    match terminal.screen.write? bell with
    | some screen => ⟨{ terminal with screen }, [.buzzerOn]⟩
    | none => ⟨terminal, [.buzzerOn, .bellFailed Screen.refusal]⟩
  else ⟨terminal, [.buzzerOff]⟩

/-- The terminal as a device. -/
def device : Device Terminal where
  poll := poll
  draw := draw
  buzz := buzz

end Terminal
end Chip8
