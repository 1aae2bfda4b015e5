import Chip8.Frame
import Chip8.Proofs.Drawing.Sequence
import Mathlib.Data.List.FinRange
import Mathlib.Data.List.OfFn
import Mathlib.Logic.Function.Iterate

/-!
# What a frame consists of

A frame spelled out pixel by pixel, in characters or in the colours of one of four themes that
follow each other in a circle.  The rows of a display are its pixels in the order of this text, so
this is what the terminal writes for a picture.
-/

namespace Chip8

/-! ### Displays row by row -/

namespace Display

/-- The pixels in rows and columns. -/
def grid (display : Display) (row : Fin 32) (column : Fin 64) : Bool :=
  display.get (pixelAt column.val row.val)

theorem grid_injective : Function.Injective grid := by
  intro one other same
  apply eq_of_get
  intro column row
  exact congrFun (congrFun same row) column

theorem slices_eq (count : Nat) (pixels : List Bool) :
    slices count pixels =
      List.ofFn fun row : Fin count => (pixels.drop (row.val * 64)).take 64 := by
  induction count generalizing pixels with
  | zero => rfl
  | succ count induction =>
      rw [slices, induction, List.ofFn_succ]
      simp [List.drop_drop, Nat.succ_mul, Nat.add_comm]

theorem rows_eq (display : Display) :
    display.rows = List.ofFn fun row => List.ofFn (display.grid row) := by
  rw [rows, slices_eq]
  congr 1
  funext row
  apply List.ext_getElem
  · simp
    omega
  · intro column column_lt column_lt_width
    rw [List.length_ofFn] at column_lt_width
    have place : row.val * 64 + column = (pixelAt column row.val).val := by
      simp only [pixelAt]
      omega
    rw [List.getElem_take, List.getElem_drop, List.getElem_ofFn, Vector.getElem_toList]
    simp only [place]
    rfl

theorem rows_eq_map (display : Display) :
    display.rows = (List.range 32).map fun row =>
      (List.range 64).map fun column => display.get (pixelAt column row) := by
  rw [rows_eq]
  simp only [← List.map_coe_finRange_eq_range, List.ofFn_eq_map, List.map_map]
  rfl

end Display

/-! ### The circle of the themes -/

namespace Theme

/-- Where a theme stands in the circle. -/
def place : Theme → Nat
  | plain => 0
  | mint => 1
  | spooky => 2
  | bumblebee => 3

end Theme

namespace Frame

/-- Red, green and blue of a pixel in the theme at a place, in decimal digits. -/
def channels (place : Nat) (isOn : Bool) : String :=
  match place % 4 with
  | 0 => if isOn then "255;255;255" else "0;0;0"
  | 1 => if isOn then "0;32;63" else "173;239;209"
  | 2 => if isOn then "242;170;76" else "16;24;32"
  | _ => if isOn then "254;231;21" else "16;24;32"

theorem channels_add_four (place : Nat) (isOn : Bool) :
    channels (place + 4) isOn = channels place isOn := by
  rw [channels, Nat.add_mod_right]
  rfl

theorem channels_next (theme : Theme) (changes : Nat) :
    channels (theme.next.place + changes) = channels (theme.place + (changes + 1)) := by
  funext isOn
  cases theme with
  | bumblebee =>
      have round : Theme.bumblebee.place + (changes + 1) = Theme.plain.place + changes + 4 := by
        simp only [Theme.place]
        omega
      rw [round, channels_add_four]
      rfl
  | plain | mint | spooky =>
      rw [Nat.add_comm changes, ← Nat.add_assoc]
      rfl

theorem channels_iterate (theme : Theme) (changes more : Nat) :
    channels ((Theme.next^[changes] theme).place + more) =
      channels (theme.place + (changes + more)) := by
  induction changes generalizing theme with
  | zero => rw [Function.iterate_zero, id, Nat.zero_add]
  | succ changes induction =>
      rw [Function.iterate_succ_apply, induction, channels_next, Nat.succ_add]

/-! ### Frames in words -/

/-- A picture in characters, one for each pixel, with an empty line after the rows. -/
def plainSpelled (picture : Display) : List Char :=
  ((List.range 32).flatMap fun row =>
    ((List.range 64).map fun column =>
      if picture.get (Display.pixelAt column row) then '#' else '.') ++ ['\n']) ++ ['\n']

/-- A control sequence of the terminal. -/
def control (code : String) : List Char := '\x1b' :: '[' :: code.toList

/-- A pixel as two blank cells on a background of three channels. -/
def cellSpelled (channels : String) : List Char :=
  control ("48;2;" ++ channels ++ "m") ++ [' ', ' ']

/-- A picture on a cleared screen, in the colours of the theme at a place. -/
def colourSpelled (place : Nat) (picture : Display) : List Char :=
  control "2J" ++ control "H" ++
    (List.range 32).flatMap fun row =>
      ((List.range 64).flatMap fun column =>
        cellSpelled (channels place (picture.get (Display.pixelAt column row)))) ++
          (control "0m" ++ ['\n'])

/-- A frame with or without colours. -/
def spelled (colour : Bool) (place : Nat) (picture : Display) : List Char :=
  if colour then colourSpelled place picture else plainSpelled picture

theorem cellChars_eq (theme : Theme) (isOn : Bool) :
    cellChars (if isOn then theme.on else theme.off) = cellSpelled (channels theme.place isOn) := by
  cases theme <;> cases isOn <;> rfl

/-- A frame in a theme that has been changed some times. -/
theorem chars_eq_spelled (theme : Theme) (changes : Nat) (colour : Bool) (picture : Display) :
    Frame.chars (Theme.next^[changes] theme) colour picture =
      spelled colour (theme.place + changes) picture := by
  have circle := channels_iterate theme changes 0
  cases colour with
  | false =>
      rw [Frame.chars, spelled, if_neg Bool.false_ne_true, if_neg Bool.false_ne_true, plainChars,
        Display.rows_eq_map, List.flatMap_map]
      simp only [List.map_map]
      rfl
  | true =>
      rw [Frame.chars, spelled, if_pos rfl, if_pos rfl, colourChars, Display.rows_eq_map,
        List.flatMap_map]
      simp only [List.flatMap_map, cellChars_eq, Nat.add_zero] at circle ⊢
      rw [circle]
      simp only [List.append_assoc]
      rfl

end Frame
end Chip8
