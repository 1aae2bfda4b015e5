import Chip8.Proofs.Script
import Chip8.Terminal

/-!
# Polls of the terminal

A poll that goes on applies what its cycle holds of the script and counts the cycle.  Output never
touches the script, so after some polls exactly the part of the script is left that belongs to
later cycles, whatever was drawn or sounded between them.
-/

namespace Chip8

/-- The change of a key that a record reports. -/
def LogRecord.keyChange? : LogRecord → Option KeyChange
  | .keyChanged cycle key pressed => some ⟨cycle, key, pressed⟩
  | _ => none

namespace Terminal

/-- One terminal has as much of its script left as another and stands at the same cycle. -/
structure SameScript (before after : Terminal) : Prop where
  keys : after.keys = before.keys
  themeChanges : after.themeChanges = before.themeChanges
  maxCycles : after.maxCycles = before.maxCycles
  cycle : after.cycle = before.cycle

namespace SameScript

theorem refl (terminal : Terminal) : SameScript terminal terminal := ⟨rfl, rfl, rfl, rfl⟩

theorem trans {first second third : Terminal} (left : SameScript first second)
    (right : SameScript second third) : SameScript first third :=
  ⟨right.keys.trans left.keys, right.themeChanges.trans left.themeChanges,
    right.maxCycles.trans left.maxCycles, right.cycle.trans left.cycle⟩

end SameScript

/-! ### Output -/

theorem sameScript_writeFrame (terminal : Terminal) :
    SameScript terminal terminal.writeFrame.device := by
  rw [writeFrame]
  split <;> exact ⟨rfl, rfl, rfl, rfl⟩

theorem sameScript_changeTheme (terminal : Terminal) :
    SameScript terminal terminal.changeTheme.device := by
  have taken : SameScript terminal { terminal with theme := terminal.theme.next } :=
    ⟨rfl, rfl, rfl, rfl⟩
  simp only [changeTheme]
  split
  · exact taken.trans (sameScript_writeFrame _)
  · exact taken

theorem sameScript_changeThemes (terminal : Terminal) (count : Nat) :
    SameScript terminal (terminal.changeThemes count).device := by
  induction count generalizing terminal with
  | zero => exact .refl terminal
  | succ count induction => exact terminal.sameScript_changeTheme.trans (induction _)

theorem sameScript_react (terminal : Terminal) (output : Output) :
    SameScript terminal (device.react terminal output).device := by
  cases output with
  | draw picture =>
      have kept : SameScript terminal { terminal with picture, drawn := true } :=
        ⟨rfl, rfl, rfl, rfl⟩
      exact kept.trans (sameScript_writeFrame _)
  | buzz on =>
      simp only [Device.react, device, buzz]
      split
      · split <;> exact ⟨rfl, rfl, rfl, rfl⟩
      · exact .refl terminal

theorem sameScript_reactAll (terminal : Terminal) (outputs : List Output) :
    SameScript terminal (device.reactAll terminal outputs).device := by
  induction outputs generalizing terminal with
  | nil => exact .refl terminal
  | cons output outputs induction => exact (terminal.sameScript_react output).trans (induction _)

/-! ### Records -/

theorem keyChange?_writeFrame (terminal : Terminal) :
    terminal.writeFrame.records.filterMap LogRecord.keyChange? = [] := by
  rw [writeFrame]
  split <;> rfl

theorem keyChange?_changeThemes (terminal : Terminal) (count : Nat) :
    (terminal.changeThemes count).records.filterMap LogRecord.keyChange? = [] := by
  induction count generalizing terminal with
  | zero => rfl
  | succ count induction =>
      have first : terminal.changeTheme.records.filterMap LogRecord.keyChange? = [] := by
        simp only [changeTheme]
        split
        · exact keyChange?_writeFrame _
        · rfl
      simp only [changeThemes, List.filterMap_append, first, induction, List.append_nil]

/-! ### Polls -/

theorem control_poll (terminal : Terminal) (keypad : Keypad) :
    (terminal.poll keypad).control = if terminal.exhausted then .quit else .proceed := by
  rw [poll]
  split <;> rfl

theorem elapsed_poll (terminal : Terminal) (keypad : Keypad) :
    (terminal.poll keypad).elapsed = 0 := by
  rw [poll]
  split <;> rfl

theorem poll_of_exhausted {terminal : Terminal} (keypad : Keypad)
    (exhausted : terminal.exhausted = true) :
    (terminal.poll keypad).device = terminal ∧ (terminal.poll keypad).keypad = keypad := by
  rw [poll, if_pos exhausted]
  exact ⟨rfl, rfl⟩

/-- What a poll does that goes on. -/
structure Plays (terminal : Terminal) (keypad : Keypad) (poll : Poll Terminal) : Prop where
  /-- The keys that are due are changed, in order. -/
  keypad : poll.keypad = applyKeys keypad terminal.dueKeys
  /-- Each change is reported at its cycle. -/
  reported : poll.records.filterMap LogRecord.keyChange? =
    terminal.dueKeys.map fun change => { change with cycle := terminal.cycle }
  /-- The changes are not to come any more. -/
  keys : poll.device.keys = terminal.keys.drop terminal.dueKeys.length
  /-- Neither are the changes of the theme that were due. -/
  themeChanges : poll.device.themeChanges =
    terminal.themeChanges.drop terminal.dueThemeChanges.length
  maxCycles : poll.device.maxCycles = terminal.maxCycles
  /-- The poll counts. -/
  cycle : poll.device.cycle = terminal.cycle + 1

theorem plays_poll {terminal : Terminal} (keypad : Keypad)
    (goes_on : terminal.exhausted = false) : Plays terminal keypad (terminal.poll keypad) := by
  have stays : ¬terminal.exhausted = true := by simp [goes_on]
  rw [poll, if_neg stays]
  have kept := sameScript_changeThemes
    { terminal with
      keys := terminal.keys.drop terminal.dueKeys.length
      themeChanges := terminal.themeChanges.drop terminal.dueThemeChanges.length }
    terminal.dueThemeChanges.length
  constructor
  · rfl
  · have changes : terminal.dueKeys.filterMap (LogRecord.keyChange? ∘ fun change =>
        .keyChanged terminal.cycle change.key change.pressed) =
        terminal.dueKeys.map fun change => { change with cycle := terminal.cycle } := by
      rw [← List.filterMap_eq_map]
      rfl
    simp only [List.filterMap_append, List.filterMap_map, keyChange?_changeThemes, List.append_nil,
      changes]
  · exact kept.keys
  · exact kept.themeChanges
  · exact kept.maxCycles
  · rfl

/-- One terminal is to treat the keys and to quit as another one, whatever they show. -/
structure SameInput (one other : Terminal) : Prop where
  keys : other.keys = one.keys
  maxCycles : other.maxCycles = one.maxCycles
  cycle : other.cycle = one.cycle

namespace SameInput

variable {one other : Terminal}

theorem of_sameScript {after otherAfter : Terminal} (same : SameInput one other)
    (left : SameScript one after) (right : SameScript other otherAfter) :
    SameInput after otherAfter :=
  ⟨by rw [right.keys, left.keys, same.keys],
    by rw [right.maxCycles, left.maxCycles, same.maxCycles],
    by rw [right.cycle, left.cycle, same.cycle]⟩

theorem exhausted (same : SameInput one other) : other.exhausted = one.exhausted := by
  rw [Terminal.exhausted, Terminal.exhausted, same.maxCycles, same.cycle]

/-- What the terminals show makes no difference to a poll. -/
theorem poll (same : SameInput one other) (keypad : Keypad) :
    SameInput (one.poll keypad).device (other.poll keypad).device ∧
      (other.poll keypad).keypad = (one.poll keypad).keypad ∧
      (other.poll keypad).control = (one.poll keypad).control := by
  have due : other.dueKeys = one.dueKeys := by
    rw [dueKeys, dueKeys, same.keys, same.cycle]
  rw [control_poll, control_poll, same.exhausted]
  cases ends : one.exhausted with
  | true =>
      obtain ⟨device, keypad_eq⟩ := poll_of_exhausted keypad ends
      obtain ⟨other_device, other_keypad⟩ :=
        poll_of_exhausted keypad (same.exhausted.trans ends)
      rw [device, other_device, keypad_eq, other_keypad]
      exact ⟨same, rfl, rfl⟩
  | false =>
      have plays := plays_poll keypad ends
      have other_plays := plays_poll keypad (same.exhausted.trans ends)
      refine ⟨⟨?_, ?_, ?_⟩, ?_, rfl⟩
      · rw [other_plays.keys, plays.keys, due, same.keys]
      · rw [other_plays.maxCycles, plays.maxCycles, same.maxCycles]
      · rw [other_plays.cycle, plays.cycle, same.cycle]
      · rw [other_plays.keypad, plays.keypad, due]

end SameInput

/-! ### Keeping to the script -/

/-- What is left of a script is what belongs to the cycle at hand and those after it. -/
structure AtCycle (settings : Settings) (moment : Nat) (terminal : Terminal) : Prop where
  keys : terminal.keys = Script.upcoming KeyChange.cycle settings.keys moment
  themeChanges : terminal.themeChanges = Script.upcoming id settings.themeChanges moment
  maxCycles : terminal.maxCycles = settings.maxCycles
  cycle : terminal.cycle = moment

theorem atCycle_start (settings : Settings) (screen : Screen) :
    AtCycle settings 0 (start settings screen) where
  keys := (Script.upcoming_zero _ _).symm
  themeChanges := (Script.upcoming_zero _ _).symm
  maxCycles := rfl
  cycle := rfl

namespace AtCycle

variable {settings : Settings} {moment : Nat} {terminal : Terminal}

theorem of_sameScript {after : Terminal} (atCycle : AtCycle settings moment terminal)
    (same : SameScript terminal after) : AtCycle settings moment after :=
  ⟨same.keys.trans atCycle.keys, same.themeChanges.trans atCycle.themeChanges,
    same.maxCycles.trans atCycle.maxCycles, same.cycle.trans atCycle.cycle⟩

theorem dueKeys (atCycle : AtCycle settings moment terminal)
    (ordered : Script.Ordered KeyChange.cycle settings.keys) :
    terminal.dueKeys = Script.during KeyChange.cycle settings.keys moment := by
  rw [Terminal.dueKeys, atCycle.keys, atCycle.cycle, ordered.takeWhile_upcoming]

theorem dueThemeChanges (atCycle : AtCycle settings moment terminal)
    (ordered : Script.Ordered id settings.themeChanges) :
    terminal.dueThemeChanges = Script.during id settings.themeChanges moment := by
  rw [Terminal.dueThemeChanges, atCycle.themeChanges, atCycle.cycle]
  exact ordered.takeWhile_upcoming moment

/-- A poll that goes on leads to the next cycle. -/
theorem poll (atCycle : AtCycle settings moment terminal)
    (ordered_keys : Script.Ordered KeyChange.cycle settings.keys)
    (ordered_themeChanges : Script.Ordered id settings.themeChanges) (keypad : Keypad)
    (goes_on : terminal.exhausted = false) :
    AtCycle settings (moment + 1) (terminal.poll keypad).device := by
  have plays := plays_poll keypad goes_on
  constructor
  · rw [plays.keys, atCycle.dueKeys ordered_keys, atCycle.keys, ordered_keys.drop_upcoming]
  · rw [plays.themeChanges, atCycle.dueThemeChanges ordered_themeChanges, atCycle.themeChanges,
      ordered_themeChanges.drop_upcoming]
  · exact plays.maxCycles.trans atCycle.maxCycles
  · rw [plays.cycle, atCycle.cycle]

end AtCycle
end Terminal
end Chip8
