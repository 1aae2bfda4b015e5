import Chip8.Yaml.Cursor

/-!
# Gaps inside a scalar

Between two words of a plain or quoted scalar stand blanks and line breaks.  Blanks on one line
are kept.  Where the line breaks, blanks count for nothing: a single line feed becomes a space, and
of several line breaks the first is dropped if it is a line feed.
-/

namespace Chip8
namespace Yaml

/-- Blanks and line breaks since the last word, the latest first. -/
inductive Gap where
  /-- Blanks on the line of the word. -/
  | blanks (seen : List Char)
  /-- Line breaks: the one that ends the line of the word, unless it was escaped, and others. -/
  | breaks (first : Option Char) (others : List Char)
deriving DecidableEq, Repr

namespace Gap

/-- Nothing between two characters. -/
def empty : Gap := .blanks []

/-- Whether there is nothing. -/
def isEmpty : Gap → Bool
  | .blanks seen => seen.isEmpty
  | .breaks _ _ => false

/-- Whether the line breaks. -/
def isBroken : Gap → Bool
  | .blanks _ => false
  | .breaks _ _ => true

/-- The gap with one more blank or line break. -/
def add (gap : Gap) (c : Char) : Gap :=
  match gap with
  | .blanks seen => if isBreak c then .breaks (some c) [] else .blanks (c :: seen)
  | .breaks first others => if isBreak c then .breaks first (c :: others) else gap

/-- What a gap means if another word follows it, the latest character first. -/
def meant : Gap → List Char
  | .blanks seen => seen
  | .breaks (some '\n') [] => [' ']
  | .breaks (some '\n') others => others
  | .breaks first others => others ++ first.toList

end Gap
end Yaml
end Chip8
