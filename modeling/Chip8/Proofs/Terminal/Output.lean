import Chip8.Proofs.Terminal
import Chip8.Run
import Mathlib.Logic.Function.Iterate

/-!
# What the terminal writes

On a screen that accepts everything, the terminal writes a frame for every picture that it is
shown and a bell whenever the buzzer goes on.  If it draws in colour, it also writes its last
picture again with every change of the theme.  Nothing else leaves a trace on the screen.
-/

namespace Chip8
namespace Screen

/-- The screen with more text on it. -/
def add (screen : Screen) (text : List Char) : Screen :=
  { screen with written := screen.written ++ String.ofList text }

theorem add_nil (screen : Screen) : screen.add [] = screen := by
  simp [add]

theorem add_add (screen : Screen) (first second : List Char) :
    (screen.add first).add second = screen.add (first ++ second) := by
  simp [add, String.append_assoc]

theorem write?_ofList {screen : Screen} (accepts : screen.remaining = none) (text : List Char) :
    screen.write? (String.ofList text) = some (screen.add text) := by
  simp only [write?, accepts, add]

end Screen

namespace Terminal

variable {terminal : Terminal}

theorem writeFrame_of_accepts (accepts : terminal.screen.remaining = none) :
    terminal.writeFrame.device =
      { terminal with
        screen := terminal.screen.add
          (Frame.chars terminal.theme terminal.colour terminal.picture) } := by
  rw [writeFrame, Frame.text, Screen.write?_ofList accepts]

/-- The frames that some changes of the theme write. -/
def redrawn (terminal : Terminal) (count : Nat) : List Char :=
  if terminal.colour && terminal.drawn then
    (List.range count).flatMap fun change =>
      Frame.chars (Theme.next^[change + 1] terminal.theme) terminal.colour terminal.picture
  else []

theorem changeTheme_of_accepts (accepts : terminal.screen.remaining = none) :
    terminal.changeTheme.device =
      { terminal with
        theme := terminal.theme.next
        screen := terminal.screen.add (terminal.redrawn 1) } := by
  simp only [changeTheme, redrawn]
  split
  · rw [@writeFrame_of_accepts { terminal with theme := terminal.theme.next } accepts]
    simp
  · rw [Screen.add_nil]

/-- Changes of the theme move it on and draw the last picture again each time. -/
theorem changeThemes_of_accepts (accepts : terminal.screen.remaining = none) (count : Nat) :
    (terminal.changeThemes count).device =
      { terminal with
        theme := Theme.next^[count] terminal.theme
        screen := terminal.screen.add (terminal.redrawn count) } := by
  induction count generalizing terminal with
  | zero => simp [changeThemes, redrawn, Screen.add_nil]
  | succ count induction =>
      have first := changeTheme_of_accepts accepts
      have again : terminal.redrawn (count + 1) =
          terminal.redrawn 1 ++ { terminal with theme := terminal.theme.next }.redrawn count := by
        simp only [redrawn]
        split
        · simp [List.range_succ_eq_map, List.flatMap_map]
        · rfl
      rw [changeThemes, induction (by rw [first]; exact accepts), first, again, ← Screen.add_add]
      rfl

/-- A poll that goes on moves the script on, and writes for the changes of the theme only. -/
theorem poll_of_accepts (accepts : terminal.screen.remaining = none) (keypad : Keypad)
    (goes_on : terminal.exhausted = false) :
    (terminal.poll keypad).device =
      { terminal with
        keys := terminal.keys.drop terminal.dueKeys.length
        themeChanges := terminal.themeChanges.drop terminal.dueThemeChanges.length
        theme := Theme.next^[terminal.dueThemeChanges.length] terminal.theme
        screen := terminal.screen.add (terminal.redrawn terminal.dueThemeChanges.length)
        cycle := terminal.cycle + 1 } := by
  rw [poll, if_neg (by simp [goes_on])]
  dsimp only
  rw [@changeThemes_of_accepts
    { terminal with
      keys := terminal.keys.drop terminal.dueKeys.length
      themeChanges := terminal.themeChanges.drop terminal.dueThemeChanges.length } accepts]
  rfl

theorem react_draw (accepts : terminal.screen.remaining = none) (picture : Display) :
    (device.react terminal (.draw picture)).device =
      { terminal with
        picture
        drawn := true
        screen := terminal.screen.add
          (Frame.chars terminal.theme terminal.colour picture) } :=
  @writeFrame_of_accepts { terminal with picture, drawn := true } accepts

theorem react_buzz (accepts : terminal.screen.remaining = none) (on : Bool) :
    (device.react terminal (.buzz on)).device =
      { terminal with screen := terminal.screen.add (if on then bell.toList else []) } := by
  cases on with
  | false => simp [Device.react, device, buzz, Screen.add_nil]
  | true =>
      have rung := Screen.write?_ofList accepts bell.toList
      rw [String.ofList_toList] at rung
      simp [Device.react, device, buzz, rung]

/-- A presentation writes the picture, if it was painted, and a bell, if the buzzer goes on. -/
theorem reactAll_presentation (accepts : terminal.screen.remaining = none) (machine : Machine) :
    (device.reactAll terminal machine.presentation).device =
      { terminal with
        picture :=
          if machine.processor.repaint then machine.processor.display else terminal.picture
        drawn := machine.processor.repaint || terminal.drawn
        screen := terminal.screen.add
          ((if machine.processor.repaint then
              Frame.chars terminal.theme terminal.colour machine.processor.display
            else []) ++
            if machine.processor.soundTimer != 0 && !machine.processor.buzzing then bell.toList
            else []) } := by
  simp only [Machine.presentation, Device.reactAll_append, ← Screen.add_add]
  generalize (machine.processor.soundTimer != 0) = sounding
  have sounds (shown : Terminal) (shown_accepts : shown.screen.remaining = none) :
      (device.reactAll shown
          (if sounding != machine.processor.buzzing then [.buzz sounding] else [])).device =
        { shown with
          screen := shown.screen.add
            (if sounding && !machine.processor.buzzing then bell.toList else []) } := by
    split
    · refine (react_buzz shown_accepts sounding).trans ?_
      cases sounding <;> simp_all
    · cases sounding <;> simp_all [Device.reactAll, Screen.add_nil]
  cases machine.processor.repaint with
  | false =>
      simp only [Bool.false_eq_true, if_false, Bool.false_or, Device.reactAll, Screen.add_nil]
      exact sounds terminal accepts
  | true =>
      have drawn := react_draw accepts machine.processor.display
      simp only [if_true, Bool.true_or, Device.reactAll, drawn]
      exact sounds _ accepts

theorem reactAll_silencing (terminal : Terminal) (machine : Machine) :
    (device.reactAll terminal machine.silencing).device = terminal := by
  rw [Machine.silencing]
  split <;> rfl

end Terminal
end Chip8
