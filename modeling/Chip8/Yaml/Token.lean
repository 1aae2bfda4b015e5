import Chip8.Yaml.Directive

/-!
# Tokens of a configuration text

The signs of a text, and the limits of its block collections, which are told by indentation.
-/

namespace Chip8
namespace Yaml

/-- How a scalar is written. -/
inductive Style where
  /-- Without quotes. -/
  | plain
  /-- In single or double quotes. -/
  | quoted
  /-- As lines below a bar. -/
  | literal
  /-- As lines below an angle bracket. -/
  | folded
deriving DecidableEq, Repr

/-- What a token is. -/
inductive Mark where
  | directive (directive : Directive)
  /-- Three dashes at the start of a line. -/
  | documentStart
  /-- Three dots at the start of a line. -/
  | documentEnd
  /-- The start of a block sequence. -/
  | indentSequence
  /-- The start of a block mapping. -/
  | indentMapping
  /-- The end of a block collection. -/
  | dedent
  | openSequence
  | closeSequence
  | openMapping
  | closeMapping
  /-- A dash before an item of a block sequence. -/
  | dash
  /-- A comma between entries of a flow collection. -/
  | comma
  /-- The start of a key, written as a question mark or told by the colon after the key. -/
  | key
  /-- A colon before a value. -/
  | colon
  /-- A reference to the node of an anchor. -/
  | alias (name : String)
  | anchor (name : String)
  | tag (handle : String) (suffix : List UInt8)
  | scalar (text : String) (style : Style)
deriving DecidableEq, Repr

/-- The directive of a token that is one. -/
def Mark.directive? : Mark → Option Directive
  | .directive stated => some stated
  | _ => none

/-- A token with the place where it begins. -/
structure Token where
  mark : Mark
  place : Place
deriving DecidableEq, Repr

end Yaml
end Chip8
