import Chip8.Yaml.Scalar.Gap

/-!
# Plain scalars

A scalar without quotes goes on over blanks and line breaks as long as another word follows that
is indented far enough.  A colon ends it at the end of a word, and a comment ends it after a gap.
Inside a flow collection the characters of its structure end it, too.
-/

namespace Chip8
namespace Yaml

/-- A plain scalar that has been read. -/
structure PlainScalar where
  text : String
  /-- Whether a line break comes after it. -/
  broken : Bool
  /-- Where the reading goes on, after the gap behind the scalar. -/
  cursor : Cursor
deriving DecidableEq, Repr

namespace PlainScalar

/-- Whether a plain scalar does not go on with the word at a cursor. -/
def stops (inFlow : Bool) (indentation : Nat) (cursor : Cursor) : Bool :=
  (!inFlow && cursor.place.column < indentation) || cursor.atMarker ||
    cursor.rest.head? = some '#'

/-- Whether the character at the head of a text ends a word. -/
def endsAt (inFlow : Bool) (c : Char) (rest : List Char) : Bool :=
  (c = ':' && endsWord rest) || (inFlow && isFlowIndicator c)

/-- Whether the colon at the head of a text inside a flow collection touches its structure. -/
def touches (c : Char) (rest : List Char) : Bool :=
  c = ':' && rest.head?.any fun next => next = '?' || isFlowIndicator next

/-- A scalar that ends before a gap, given its text in reverse and the cursor after the gap. -/
def ending (text : List Char) (gap : Gap) (cursor : Cursor) : PlainScalar :=
  { text := String.ofList text.reverse, broken := gap.isBroken, cursor }

/-- Read on, given what was read in reverse and the gap since. -/
def scan (inFlow : Bool) (indentation : Nat) (text : List Char) (gap : Gap) (place : Place) :
    List Char → Except SyntaxError PlainScalar
  | [] => .ok (ending text gap ⟨place, []⟩)
  | c :: rest =>
      if isSpace c then
        if c = '\t' && gap.isBroken && place.column < indentation then
          .error (.unexpectedCharacter place)
        else scan inFlow indentation text (gap.add c) (place.after c) rest
      else if !gap.isEmpty && stops inFlow indentation ⟨place, c :: rest⟩ then
        .ok (ending text gap ⟨place, c :: rest⟩)
      else if inFlow && touches c rest then .error (.unexpectedCharacter place)
      else if endsAt inFlow c rest then .ok (ending text gap ⟨place, c :: rest⟩)
      else scan inFlow indentation (c :: gap.meant ++ text) .empty (place.after c) rest

end PlainScalar

/-- The plain scalar at a cursor, in a collection whose content is indented to a column. -/
def Cursor.plainScalar (cursor : Cursor) (inFlow : Bool) (indentation : Nat) :
    Except SyntaxError PlainScalar :=
  PlainScalar.scan inFlow indentation [] .empty cursor.place cursor.rest

end Yaml
end Chip8
