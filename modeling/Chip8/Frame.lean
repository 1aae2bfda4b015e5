import Chip8.Display
import Chip8.Theme

/-!
# Frames

A display as a terminal shows it: in plain characters, or as cells of coloured background that
replace what the screen held.
-/

namespace Chip8
namespace Frame

/-- Decimal digits of a colour channel. -/
def channelChars (value : UInt8) : List Char := (toString value.toNat).toList

/-- Two blank cells on a background colour. -/
def cellChars (colour : Colour) : List Char :=
  '\x1b' :: '[' :: '4' :: '8' :: ';' :: '2' :: ';' :: channelChars colour.red ++
    ';' :: channelChars colour.green ++ ';' :: channelChars colour.blue ++ ['m', ' ', ' ']

/-- Clear the screen and go to its top left corner. -/
def clearScreen : List Char := ['\x1b', '[', '2', 'J', '\x1b', '[', 'H']

/-- Back to the usual colours. -/
def resetColour : List Char := ['\x1b', '[', '0', 'm']

/-- A frame in plain characters: the rows and an empty line. -/
def plainChars (display : Display) : List Char :=
  (display.rows.flatMap fun row => row.map (fun isOn => if isOn then '#' else '.') ++ ['\n']) ++
    ['\n']

/-- A frame in the colours of a theme. -/
def colourChars (theme : Theme) (display : Display) : List Char :=
  clearScreen ++ display.rows.flatMap fun row =>
    (row.flatMap fun isOn => cellChars (if isOn then theme.on else theme.off)) ++
      resetColour ++ ['\n']

/-- A frame with or without colours. -/
def chars (theme : Theme) (colour : Bool) (display : Display) : List Char :=
  if colour then colourChars theme display else plainChars display

/-- A frame as text. -/
def text (theme : Theme) (colour : Bool) (display : Display) : String :=
  String.ofList (chars theme colour display)

end Frame
end Chip8
