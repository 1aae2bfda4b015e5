import Chip8.Yaml.Character

/-!
# Places in a configuration text

A cursor is a place together with the characters from there on.  Moving a cursor counts the lines
and columns that it passes.
-/

namespace Chip8
namespace Yaml

/-- A place in a text, with everything counted from zero. -/
structure Place where
  /-- Octets before it. -/
  offset : Nat := 0
  /-- Lines before its line. -/
  line : Nat := 0
  /-- Characters before it on its line. -/
  column : Nat := 0
deriving DecidableEq, Repr

namespace Place

/-- The place after a character. -/
def after (place : Place) (c : Char) : Place :=
  let offset := place.offset + c.utf8Size
  if isBreak c then { offset, line := place.line + 1, column := 0 }
  else { place with offset, column := place.column + 1 }

end Place

/-- Why a text is not a configuration text. -/
inductive SyntaxError where
  /-- A character that may not stand in any text. -/
  | controlCharacter
  /-- A character that does not fit where it stands. -/
  | unexpectedCharacter (place : Place)
  /-- An escape that stands for nothing. -/
  | invalidEscape (place : Place)
  /-- A quoted scalar without an end. -/
  | unclosedQuote (place : Place)
  /-- A key that has no colon where it needs one. -/
  | missingColon (place : Place)
  /-- An anchor, tag or directive that is not well formed. -/
  | malformedName (place : Place)
  /-- A tag whose handle nothing declares. -/
  | undeclaredHandle (handle : String)
  /-- An alias for which no node was marked before. -/
  | unknownAnchor (name : String)
  /-- A token that does not fit where it stands. -/
  | unexpectedToken (place : Place)
  /-- A structure without an end. -/
  | unexpectedEnd
deriving DecidableEq, Repr

namespace SyntaxError

/-- The wording of a place, counted from one. -/
def placed (what : String) (place : Place) : String :=
  what ++ " at line " ++ toString (place.line + 1) ++ " column " ++ toString (place.column + 1)

/-- The wording of a syntax error. -/
def message : SyntaxError → String
  | controlCharacter => "control characters are not allowed"
  | unexpectedCharacter place => placed "unexpected character" place
  | invalidEscape place => placed "invalid escape" place
  | unclosedQuote place => placed "unclosed quote" place
  | missingColon place => placed "missing colon after a key" place
  | malformedName place => placed "malformed name" place
  | undeclaredHandle handle => "undeclared tag handle " ++ handle
  | unknownAnchor name => "unknown anchor " ++ name
  | unexpectedToken place => placed "unexpected token" place
  | unexpectedEnd => "unexpected end"

end SyntaxError

/-- A text from a place on. -/
structure Cursor where
  place : Place
  /-- The characters from there on. -/
  rest : List Char
deriving DecidableEq, Repr

namespace Cursor

/-- Pass over a number of characters, or over all that are left. -/
def advance : Nat → Cursor → Cursor
  | count + 1, ⟨place, c :: rest⟩ => advance count ⟨place.after c, rest⟩
  | _, cursor => cursor

/-- The characters up to the first one outside a class, and the cursor there. -/
def span (cursor : Cursor) (inside : Char → Bool) : List Char × Cursor :=
  let taken := cursor.rest.takeWhile inside
  (taken, cursor.advance taken.length)

/-- The cursor at the first character outside a class. -/
def skip (cursor : Cursor) (inside : Char → Bool) : Cursor := (cursor.span inside).2

/-- Whether a blank, a line break or the end comes next. -/
def endsWord (cursor : Cursor) : Bool := Yaml.endsWord cursor.rest

/-- Whether a character stands three times at the start of a line, as a word. -/
def atMarkerOf (cursor : Cursor) (c : Char) : Bool :=
  cursor.place.column = 0 && cursor.rest.take 3 = [c, c, c] && Yaml.endsWord (cursor.rest.drop 3)

/-- Whether the start or the end of a document is marked here. -/
def atMarker (cursor : Cursor) : Bool := cursor.atMarkerOf '-' || cursor.atMarkerOf '.'

/-- Pass over the blanks and the comment that end a line, and over the end of the line. -/
def finishLine (cursor : Cursor) : Except SyntaxError Cursor :=
  let cursor := cursor.skip isBlank
  let cursor := if cursor.rest.head? = some '#' then cursor.skip (!isBreak ·) else cursor
  if cursor.rest.head?.all isBreak then .ok (cursor.advance 1)
  else .error (.unexpectedCharacter cursor.place)

end Cursor
end Yaml
end Chip8
