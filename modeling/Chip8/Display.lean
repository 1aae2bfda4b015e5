import Chip8.Memory

/-!
# The display

A grid of 64 by 32 pixels that wraps around at its edges.  Sprites are drawn by toggling pixels:
a sprite is first turned into the list of the pixels that it covers, row by row, and each of these
is toggled in turn.  A collision is a toggled pixel that was on.
-/

namespace Chip8

/-- The pixels of the display, row by row. -/
structure Display where
  /-- Pixel `(x, y)` is the entry `x + 64 * y`. -/
  pixels : Vector Bool 2048
deriving DecidableEq, Repr, Inhabited

/-- The number of a pixel of the display. -/
abbrev Pixel := Fin 2048

namespace Display

/-- Columns of the display. -/
def width : Nat := 64

/-- Rows of the display. -/
def height : Nat := 32

/-- All pixels off. -/
def blank : Display := ⟨Vector.replicate 2048 false⟩

/-- The pixel at a column and a row, both wrapped around. -/
def pixelAt (column row : Nat) : Pixel :=
  ⟨column % 64 + row % 32 * 64, by omega⟩

/-- Whether a pixel is on. -/
def get (display : Display) (pixel : Pixel) : Bool := display.pixels[pixel]

/-- Switch a pixel on or off. -/
def set (display : Display) (pixel : Pixel) (isOn : Bool) : Display :=
  ⟨display.pixels.set pixel isOn⟩

/-- Switch a pixel over. -/
def toggle (display : Display) (pixel : Pixel) : Display :=
  display.set pixel (!display.get pixel)

theorem get_blank (pixel : Pixel) : blank.get pixel = false := by
  simp [get, blank]

theorem get_set (display : Display) (pixel other : Pixel) (isOn : Bool) :
    (display.set pixel isOn).get other = if other = pixel then isOn else display.get other := by
  by_cases same : other = pixel
  · simp [get, set, same]
  · have apart : ¬ pixel.val = other.val := fun equal => same (Fin.ext equal.symm)
    simp [get, set, same, apart]

/-- Toggling a pixel changes that pixel only. -/
theorem get_toggle (display : Display) (pixel other : Pixel) :
    (display.toggle pixel).get other = (display.get other ^^ decide (other = pixel)) := by
  rw [toggle, get_set]
  by_cases same : other = pixel <;> simp [same]

/-- Toggle pixels one after the other.  Answers the display and whether any of them was on when
its turn came. -/
def toggleAll (display : Display) : List Pixel → Display × Bool
  | [] => (display, false)
  | pixel :: rest =>
      let wasOn := display.get pixel
      let (drawn, collided) := (display.toggle pixel).toggleAll rest
      (drawn, wasOn || collided)

/-- Consecutive slices of 64 pixels. -/
def slices : Nat → List Bool → List (List Bool)
  | 0, _ => []
  | count + 1, pixels => pixels.take 64 :: slices count (pixels.drop 64)

/-- The rows of the display from top to bottom, each from left to right. -/
def rows (display : Display) : List (List Bool) := slices 32 display.pixels.toList

/-- The character of a pixel in text. -/
def pixelChar (isOn : Bool) : Char := if isOn then '#' else '.'

/-- The characters of a display in text, one line for each row, looked up pixel by pixel. -/
def chars (display : Display) : List Char :=
  (List.range 32).flatMap fun row =>
    (List.range 64).map (fun column => pixelChar (display.get (pixelAt column row))) ++ ['\n']

/-- A display as text, one line for each row. -/
def text (display : Display) : String := String.ofList display.chars

end Display

/-- A sprite in memory: where its rows begin and how many there are. -/
structure Sprite where
  /-- Address of the first row. -/
  address : Nat
  rows : Nat
deriving DecidableEq, Repr

namespace Sprite

/-- Whether the sprite has a pixel at a column of one of its rows.  The leftmost pixel is the
highest bit. -/
def bit (memory : Memory) (sprite : Sprite) (row column : Nat) : Bool :=
  (memory.read (sprite.address + row)).toNat.testBit (7 - column)

/-- The pixels of one row of a sprite that is drawn at a column and a row of the display. -/
def rowPixels (memory : Memory) (sprite : Sprite) (column row index : Nat) : List Pixel :=
  (List.range 8).filterMap fun offset =>
    if sprite.bit memory index offset then some (Display.pixelAt (column + offset) (row + index))
    else none

/-- The pixels that a sprite covers when it is drawn at a column and a row of the display. -/
def pixels (memory : Memory) (sprite : Sprite) (column row : Nat) : List Pixel :=
  (List.range sprite.rows).flatMap (sprite.rowPixels memory column row)

end Sprite
end Chip8
