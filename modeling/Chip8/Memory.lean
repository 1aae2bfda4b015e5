/-!
# Memory

Four kilobytes of memory, addressed through the low twelve bits of any address.  The glyphs of the
sixteen digits lie at the bottom, programs begin at `512`, and the rest is zero.
-/

namespace Chip8

/-- The main memory. -/
structure Memory where
  /-- One cell for each address. -/
  cells : Vector UInt8 4096
deriving DecidableEq, Repr, Inhabited

/-- The glyphs of the hexadecimal digits, five rows of eight pixels each. -/
abbrev Font := Vector UInt8 80

namespace Font

/-- The built-in glyphs. -/
def standard : Font :=
  #v[0xF0, 0x90, 0x90, 0x90, 0xF0,
    0x20, 0x60, 0x20, 0x20, 0x70,
    0xF0, 0x10, 0xF0, 0x80, 0xF0,
    0xF0, 0x10, 0xF0, 0x10, 0xF0,
    0x90, 0x90, 0xF0, 0x10, 0x10,
    0xF0, 0x80, 0xF0, 0x10, 0xF0,
    0xF0, 0x80, 0xF0, 0x90, 0xF0,
    0xF0, 0x10, 0x20, 0x40, 0x40,
    0xF0, 0x90, 0xF0, 0x90, 0xF0,
    0xF0, 0x90, 0xF0, 0x10, 0xF0,
    0xF0, 0x90, 0xF0, 0x90, 0x90,
    0xE0, 0x90, 0xE0, 0x90, 0xE0,
    0xF0, 0x80, 0x80, 0x80, 0xF0,
    0xE0, 0x90, 0x90, 0x90, 0xE0,
    0xF0, 0x80, 0xF0, 0x80, 0xF0,
    0xF0, 0x80, 0xF0, 0x80, 0x80]

/-- Address of the first glyph. -/
def start : Nat := 0

/-- Rows of a glyph, one byte each. -/
def height : Nat := 5

/-- Bytes of all glyphs together. -/
def size : Nat := 80

end Font

namespace Memory

/-- Number of cells. -/
def size : Nat := 4096

/-- The low bits that address a cell. -/
def addressMask : Nat := 0xFFF

/-- The cell that an address reaches. -/
def wrap (address : Nat) : Fin 4096 := Fin.ofNat 4096 address

/-- The byte at an address. -/
def read (memory : Memory) (address : Nat) : UInt8 := memory.cells[wrap address]

/-- Replace the byte at an address. -/
def write (memory : Memory) (address : Nat) (byte : UInt8) : Memory :=
  ⟨memory.cells.set (wrap address) byte⟩

/-- A byte that was written is read through every address of its cell, and all other cells are as
they were. -/
theorem read_write (memory : Memory) (address other : Nat) (byte : UInt8) :
    (memory.write address byte).read other =
      if wrap other = wrap address then byte else memory.read other := by
  by_cases same : wrap other = wrap address
  · simp [read, write, same]
  · have apart : ¬ (wrap address).val = (wrap other).val := fun equal => same (Fin.ext equal.symm)
    simp [read, write, same, apart]

/-- Write bytes at consecutive addresses. -/
def writeAll (memory : Memory) (address : Nat) : List UInt8 → Memory
  | [] => memory
  | byte :: rest => (memory.write address byte).writeAll (address + 1) rest

/-- Memory that holds the glyphs and a program, and zero elsewhere. -/
def image (font : Font) (program : Array UInt8) : Memory :=
  ⟨Vector.ofFn fun cell =>
    if inFont : cell.val < 80 then font[cell.val]
    else if cell.val < 512 then 0
    else program[cell.val - 512]?.getD 0⟩

theorem read_image (font : Font) (program : Array UInt8) (address : Nat) :
    (image font program).read address =
      let cell := address % 4096
      if inFont : cell < 80 then font[cell]
      else if cell < 512 then 0
      else program[cell - 512]?.getD 0 := by
  simp [read, image, wrap]

/-- Put other glyphs in their place. -/
def withFont (memory : Memory) (font : Font) : Memory :=
  ⟨Vector.ofFn fun cell =>
    if inFont : cell.val < 80 then font[cell.val] else memory.cells[cell]⟩

end Memory
end Chip8
