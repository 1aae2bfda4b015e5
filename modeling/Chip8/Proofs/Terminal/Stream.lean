import Chip8.Proofs.Terminal.Frame
import Chip8.Proofs.Terminal.Output

/-!
# Reading what the terminal wrote

A plain frame is the display as text with an empty line after it.  With or without colours, every
piece of the output marks its own end: a cell of a colour, a row, a frame and a bell.  So the
output of a terminal of which the theme is not changed tells which pictures were drawn, and between
which of them the bell was rung.
-/

namespace Chip8

/-! ### Words that mark their own end -/

/-- Words that a reader can tell from whatever follows them. -/
def SelfDelimiting {α : Type} (word : α → List Char) : Prop :=
  ∀ ⦃one other : α⦄ ⦃rest other_rest : List Char⦄,
    word one ++ rest = word other ++ other_rest → one = other ∧ rest = other_rest

namespace SelfDelimiting

variable {α β : Type} {word : α → List Char}

theorem singleton {char : α → Char} (injective : char.Injective) :
    SelfDelimiting fun value => [char value] := by
  intro one other rest other_rest same
  obtain ⟨chars, rests⟩ := List.cons.inj same
  exact ⟨injective chars, rests⟩

variable (delimits : SelfDelimiting word)
include delimits

theorem comp {value : β → α} (injective : value.Injective) :
    SelfDelimiting fun source => word (value source) := by
  intro one other rest other_rest same
  obtain ⟨values, rests⟩ := delimits same
  exact ⟨injective values, rests⟩

/-- The same text may stand before all words, and the same text after them. -/
theorem framed (opening closing : List Char) :
    SelfDelimiting fun value => opening ++ word value ++ closing := by
  intro one other rest other_rest same
  simp only [List.append_assoc, List.append_cancel_left_eq] at same
  obtain ⟨values, rests⟩ := delimits same
  exact ⟨values, List.append_cancel_left rests⟩

theorem table (size : Nat) :
    SelfDelimiting fun values : Fin size → α => (List.ofFn values).flatMap word := by
  induction size with
  | zero =>
      intro one other rest other_rest same
      exact ⟨Subsingleton.elim one other, by simpa using same⟩
  | succ size induction =>
      intro one other rest other_rest same
      simp only [List.ofFn_succ, List.flatMap_cons, List.append_assoc] at same
      obtain ⟨first, later⟩ := delimits same
      obtain ⟨others, rests⟩ := induction later
      exact ⟨funext (Fin.cases first (congrFun others)), rests⟩

/-- Any number of words in a row, if none of them is empty. -/
theorem flatMap_injective (visible : ∀ value, word value ≠ []) :
    Function.Injective fun values : List α => values.flatMap word := by
  intro one
  induction one with
  | nil =>
      intro other same
      cases other with
      | nil => rfl
      | cons value values =>
          obtain ⟨unseen, -⟩ := List.append_eq_nil_iff.mp same.symm
          exact absurd unseen (visible value)
  | cons value values induction =>
      intro other same
      cases other with
      | nil =>
          obtain ⟨unseen, -⟩ := List.append_eq_nil_iff.mp same
          exact absurd unseen (visible value)
      | cons first others =>
          obtain ⟨rfl, rests⟩ := delimits same
          rw [induction rests]

end SelfDelimiting

/-! ### Plain frames -/

namespace Display

theorem chars_eq (display : Display) :
    display.chars = display.rows.flatMap fun row => row.map pixelChar ++ ['\n'] := by
  rw [rows_eq_map, chars]
  simp only [List.flatMap_map, List.map_map]
  rfl

end Display

/-! ### Frames -/

theorem Theme.colour_injective (theme : Theme) :
    Function.Injective fun isOn : Bool => if isOn then theme.on else theme.off := by
  apply Bool.injective_iff.mpr
  cases theme <;> decide

namespace Frame

/-- A plain frame is the display as text with an empty line after it. -/
theorem text_plain (theme : Theme) (display : Display) :
    Frame.text theme false display = display.text ++ "\n" := by
  have newline : "\n" = String.ofList ['\n'] := rfl
  rw [Display.text, newline, ← String.ofList_append, Display.chars_eq]
  rfl

/-- A number is told by its digits, up to a character that is no digit. -/
theorem channelChars_append_inj {stop : Char} (plain : stop.isDigit = false) {one other : UInt8}
    {rest other_rest : List Char}
    (same : channelChars one ++ stop :: rest = channelChars other ++ stop :: other_rest) :
    one = other ∧ rest = other_rest := by
  have digits (value : UInt8) : channelChars value = Nat.toDigits 10 value.toNat := by
    rw [channelChars, Nat.toString_eq_ofList_toDigits, String.toList_ofList]
  have read (value : UInt8) (rest : List Char) :
      (channelChars value ++ stop :: rest).takeWhile Char.isDigit = channelChars value := by
    rw [List.takeWhile_append_of_pos, List.takeWhile_cons_of_neg (by simp [plain]), List.append_nil]
    intro c member
    rw [digits] at member
    exact Nat.isDigit_of_mem_toDigits (by decide) (by decide) member
  have words : channelChars one = channelChars other := by
    rw [← read one rest, same, read]
  constructor
  · have numbers := congrArg (Nat.ofDigitChars 10 · 0) words
    simp only [digits, Nat.ofDigitChars_ten_toDigits] at numbers
    exact UInt8.toNat_inj.mp numbers
  · rw [words] at same
    exact (List.cons.inj (List.append_cancel_left same)).2

theorem delimits_cellChars : SelfDelimiting cellChars := by
  rintro ⟨red, green, blue⟩ ⟨other_red, other_green, other_blue⟩ rest other_rest same
  simp only [cellChars, List.cons_append, List.append_assoc, List.cons.injEq, true_and,
    List.nil_append] at same
  obtain ⟨reds, after_red⟩ := channelChars_append_inj rfl same
  obtain ⟨greens, after_green⟩ := channelChars_append_inj rfl after_red
  obtain ⟨blues, after_blue⟩ := channelChars_append_inj rfl after_green
  rw [reds, greens, blues]
  exact ⟨rfl, by simpa using after_blue⟩

theorem delimits_rows {pixel : Bool → List Char} (delimits : SelfDelimiting pixel)
    (ending : List Char) :
    SelfDelimiting fun display : Display =>
      display.rows.flatMap fun row => row.flatMap pixel ++ ending := by
  have row := (delimits.table 64).framed [] ending
  have grid := (row.table 32).comp Display.grid_injective
  intro one other rest other_rest same
  apply grid
  simpa only [Display.rows_eq, List.ofFn_eq_map, List.flatMap_map, List.nil_append] using same

/-- A frame marks its own end, in any theme and without colours as well. -/
theorem delimits_chars (theme : Theme) (colour : Bool) :
    SelfDelimiting (Frame.chars theme colour) := by
  cases colour with
  | true =>
      have cell := delimits_cellChars.comp theme.colour_injective
      have frame := (delimits_rows cell (resetColour ++ ['\n'])).framed clearScreen []
      intro one other rest other_rest same
      apply frame
      simpa [Frame.chars, colourChars] using same
  | false =>
      have apart : Function.Injective fun isOn : Bool => if isOn then '#' else '.' :=
        Bool.injective_iff.mpr (by decide)
      have pixel := SelfDelimiting.singleton apart
      have frame := (delimits_rows pixel ['\n']).framed [] ['\n']
      intro one other rest other_rest same
      apply frame
      simpa [Frame.chars, plainChars, List.map_eq_flatMap] using same

/-- No frame begins like a bell. -/
theorem exists_chars_eq_cons (theme : Theme) (colour : Bool) (display : Display) :
    ∃ first others, Frame.chars theme colour display = first :: others ∧ first ≠ '\x07' := by
  cases colour with
  | true => exact ⟨'\x1b', _, rfl, by decide⟩
  | false =>
      -- the first character is that of the pixel in the upper left corner
      have pixel : (if display.grid 0 0 then '#' else '.') ≠ '\x07' := by
        split <;> decide
      obtain ⟨others, frame⟩ : ∃ others, Frame.chars theme false display =
          (if display.grid 0 0 then '#' else '.') :: others := by
        rw [Frame.chars, if_neg Bool.false_ne_true, plainChars, Display.rows_eq, List.ofFn_succ,
          List.ofFn_succ]
        exact ⟨_, rfl⟩
      exact ⟨_, others, frame, pixel⟩

end Frame

/-! ### The stream -/

/-- What an output leaves on the screen. -/
inductive Mark where
  | picture (display : Display)
  | bell
deriving DecidableEq, Repr

/-- Pictures and bells are seen, but not a buzzer that goes off. -/
def Output.mark? : Output → Option Mark
  | .draw picture => some (.picture picture)
  | .buzz true => some .bell
  | .buzz false => none

namespace Mark

/-- How a mark is written. -/
def chars (theme : Theme) (colour : Bool) : Mark → List Char
  | picture display => Frame.chars theme colour display
  | bell => Terminal.bell.toList

variable (theme : Theme) (colour : Bool)

theorem delimits_chars : SelfDelimiting (Mark.chars theme colour) := by
  have apart (display : Display) (rest other_rest : List Char) :
      Frame.chars theme colour display ++ rest ≠ Terminal.bell.toList ++ other_rest := by
    obtain ⟨first, others, frame, first_ne⟩ := Frame.exists_chars_eq_cons theme colour display
    intro same
    rw [frame] at same
    exact first_ne (List.cons.inj same).1
  intro one other rest other_rest same
  cases one with
  | picture display =>
      cases other with
      | picture other_display =>
          obtain ⟨displays, rests⟩ := Frame.delimits_chars theme colour same
          exact ⟨congrArg picture displays, rests⟩
      | bell => exact absurd same (apart display rest other_rest)
  | bell =>
      cases other with
      | picture display => exact absurd same.symm (apart display other_rest rest)
      | bell => exact ⟨rfl, List.append_cancel_left same⟩

theorem chars_ne_nil (mark : Mark) : mark.chars theme colour ≠ [] := by
  cases mark with
  | picture display =>
      obtain ⟨first, others, frame, -⟩ := Frame.exists_chars_eq_cons theme colour display
      rw [chars, frame]
      exact List.cons_ne_nil first others
  | bell => simp [chars, Terminal.bell]

end Mark

namespace Terminal

variable {terminal : Terminal}

/-- The bytes that some outputs add to those on the screen. -/
def bytesOf (terminal : Terminal) (outputs : List Output) : ByteArray :=
  let before := terminal.screen.written.toUTF8
  let after := (device.reactAll terminal outputs).device.screen.written.toUTF8
  after.extract before.size after.size

theorem react_of_accepts (accepts : terminal.screen.remaining = none) (output : Output) :
    let after := (device.react terminal output).device
    after.theme = terminal.theme ∧ after.colour = terminal.colour ∧
      after.screen = terminal.screen.add
        (output.mark?.toList.flatMap (Mark.chars terminal.theme terminal.colour)) := by
  cases output with
  | draw picture =>
      rw [react_draw accepts]
      simp [Output.mark?, Mark.chars]
  | buzz on =>
      rw [react_buzz accepts]
      cases on <;> simp [Output.mark?, Mark.chars]

theorem screen_reactAll (accepts : terminal.screen.remaining = none) (outputs : List Output) :
    (device.reactAll terminal outputs).device.screen =
      terminal.screen.add
        ((outputs.filterMap Output.mark?).flatMap (Mark.chars terminal.theme terminal.colour)) := by
  induction outputs generalizing terminal with
  | nil => exact (Screen.add_nil _).symm
  | cons output outputs induction =>
      obtain ⟨theme, colour, screen⟩ := react_of_accepts accepts output
      have still : (device.react terminal output).device.screen.remaining = none := by
        rw [screen]
        exact accepts
      have later := induction still
      rw [theme, colour, screen, Screen.add_add] at later
      refine later.trans ?_
      rw [List.filterMap_cons]
      cases output.mark? with
      | none => rfl
      | some mark => simp

theorem bytesOf_eq (accepts : terminal.screen.remaining = none) (outputs : List Output) :
    terminal.bytesOf outputs =
      (String.ofList ((outputs.filterMap Output.mark?).flatMap
        (Mark.chars terminal.theme terminal.colour))).toUTF8 := by
  rw [bytesOf, screen_reactAll accepts]
  simp only [Screen.add, String.toUTF8, String.toByteArray_append]
  exact ByteArray.extract_append_eq_right rfl ByteArray.size_append

/-- The output is faithful.  A plain frame is the display as text with an empty line after it.  Of
two terminals of the same theme and setting that write without a bound, the bytes for some outputs
are the same exactly when the pictures drawn and the bells rung are the same and come in the same
order. -/
theorem output_faithful :
    (∀ (theme : Theme) (display : Display),
      Frame.text theme false display = display.text ++ "\n") ∧
    ∀ (one other : Terminal), one.theme = other.theme → one.colour = other.colour →
      one.screen.remaining = none → other.screen.remaining = none →
      ∀ outputs other_outputs : List Output,
        one.bytesOf outputs = other.bytesOf other_outputs ↔
          outputs.filterMap Output.mark? = other_outputs.filterMap Output.mark? := by
  refine ⟨Frame.text_plain, ?_⟩
  intro one other theme colour accepts other_accepts outputs other_outputs
  have delimits := Mark.delimits_chars other.theme other.colour
  have injective := delimits.flatMap_injective (Mark.chars_ne_nil other.theme other.colour)
  rw [bytesOf_eq accepts, bytesOf_eq other_accepts, theme, colour, String.toUTF8, String.toUTF8,
    String.toByteArray_inj, String.ofList_inj]
  exact injective.eq_iff

/-- A picture between two bells is told from one after them, and a buzzer that goes off is not
seen. -/
theorem output_faithful_bells :
    let terminal := start { theme := .mint, colour := true } {}
    let other := start { theme := .mint, colour := true } { written := "earlier" }
    terminal.bytesOf [.buzz true, .draw .blank, .buzz true] ≠
        other.bytesOf [.buzz true, .buzz false, .buzz true, .draw .blank] ∧
      terminal.bytesOf [.buzz true, .buzz false, .draw .blank] =
        other.bytesOf [.buzz true, .draw .blank] := by
  intro terminal other
  have faithful := output_faithful.2 terminal other rfl rfl rfl rfl
  constructor
  · intro same
    have marks : [.bell, .picture .blank, .bell] = [Mark.bell, .bell, .picture .blank] :=
      (faithful _ _).mp same
    simp at marks
  · rw [faithful]
    rfl

end Terminal
end Chip8
