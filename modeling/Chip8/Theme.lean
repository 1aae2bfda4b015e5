/-!
# Themes

The two-colour palettes in which the monochrome display can be shown.
-/

namespace Chip8

/-- Red, green and blue. -/
structure Colour where
  red : UInt8
  green : UInt8
  blue : UInt8
deriving DecidableEq, Repr

/-- A palette. -/
inductive Theme where
  /-- White on black. -/
  | plain
  /-- Navy on mint. -/
  | mint
  /-- Orange on charcoal. -/
  | spooky
  /-- Yellow on charcoal. -/
  | bumblebee
deriving DecidableEq, Repr, Inhabited

namespace Theme

/-- The theme that follows, going round after the last. -/
def next : Theme → Theme
  | plain => mint
  | mint => spooky
  | spooky => bumblebee
  | bumblebee => plain

/-- Colour of a pixel that is off. -/
def off : Theme → Colour
  | plain => ⟨0, 0, 0⟩
  | mint => ⟨173, 239, 209⟩
  | spooky => ⟨16, 24, 32⟩
  | bumblebee => ⟨16, 24, 32⟩

/-- Colour of a pixel that is on. -/
def on : Theme → Colour
  | plain => ⟨255, 255, 255⟩
  | mint => ⟨0, 32, 63⟩
  | spooky => ⟨242, 170, 76⟩
  | bumblebee => ⟨254, 231, 21⟩

/-- The name by which a theme is announced. -/
def title : Theme → String
  | plain => "Default"
  | mint => "Mint"
  | spooky => "Spooky"
  | bumblebee => "Bumblebee"

/-- The theme of a name in a configuration. -/
def ofName? : String → Option Theme
  | "default" => some plain
  | "mint" => some mint
  | "spooky" => some spooky
  | "bumblebee" => some bumblebee
  | _ => none

/-- The wording for a name that no theme has. -/
def unknownMessage (name : String) : String :=
  "unknown variant \x60" ++ name ++
    "\x60, expected one of \x60default\x60, \x60mint\x60, \x60spooky\x60, \x60bumblebee\x60"

end Theme
end Chip8
