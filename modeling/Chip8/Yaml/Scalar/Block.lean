import Chip8.Yaml.Cursor

/-!
# Block scalars

A block scalar is the text of the indented lines below its indicator.  A literal one keeps its line
breaks.  A folded one joins two lines by a space unless one of them begins with a blank, and keeps
the breaks of the empty lines between them.  The breaks after the last line are kept, dropped, or
cut down to one.
-/

namespace Chip8
namespace Yaml
namespace Block

/-- What becomes of the line breaks after the last line. -/
inductive Chomping where
  /-- All are dropped. -/
  | strip
  /-- The first is kept. -/
  | clip
  /-- All are kept. -/
  | keep
deriving DecidableEq, Repr

/-- The sign that says what becomes of the last line breaks, if it stands at a cursor. -/
def chomping? (cursor : Cursor) : Option Chomping × Cursor :=
  match cursor.rest with
  | '-' :: _ => (some .strip, cursor.advance 1)
  | '+' :: _ => (some .keep, cursor.advance 1)
  | _ => (none, cursor)

/-- The digit that says how far the lines are indented, if it stands at a cursor. -/
def increment? (cursor : Cursor) : Except SyntaxError (Option Nat × Cursor) :=
  match cursor.rest with
  | c :: _ =>
      if c = '0' then .error (.unexpectedCharacter cursor.place)
      else if c.isDigit then .ok (some (c.toNat - '0'.toNat), cursor.advance 1)
      else .ok (none, cursor)
  | [] => .ok (none, cursor)

/-- The sign and the digit after the indicator, in either order, and the rest of the line. -/
def header (cursor : Cursor) : Except SyntaxError (Chomping × Option Nat × Cursor) := do
  let (before, cursor) := chomping? cursor
  let (increment, cursor) ← increment? cursor
  let (chomping, cursor) := if before.isSome then (before, cursor) else chomping? cursor
  return (chomping.getD .clip, increment, ← cursor.finishLine)

/-- The widest indentation of the empty lines at a place and of the first line that is not empty,
the breaks of the empty lines in reverse, and the cursor after that indentation. -/
def measure (widest : Nat) (breaks : List Char) (place : Place) :
    List Char → Except SyntaxError (Nat × List Char × Cursor)
  | [] => .ok (widest, breaks, ⟨place, []⟩)
  | c :: rest =>
      if c = ' ' then measure (max widest (place.column + 1)) breaks (place.after c) rest
      else if c = '\t' then .error (.unexpectedCharacter place)
      else if isBreak c then measure widest (c :: breaks) (place.after c) rest
      else .ok (widest, breaks, ⟨place, c :: rest⟩)

/-- The lines read so far.  Texts are kept in reverse. -/
structure Lines where
  /-- The text up to the last line. -/
  text : List Char := []
  /-- The break that ends the last line. -/
  ending : Option Char := none
  /-- The breaks of the empty lines after it. -/
  empties : List Char := []
  /-- Whether the last line begins with a blank. -/
  blank : Bool := false
  /-- Whether the reading is in the middle of the last line. -/
  inside : Bool := false
deriving DecidableEq, Repr

namespace Lines

/-- What stands between the last line and a line that begins with a given character. -/
def between (lines : Lines) (folded : Bool) (c : Char) : List Char :=
  if folded && lines.ending = some '\n' && !lines.blank && !isBlank c then
    if lines.empties.isEmpty then [' '] else lines.empties
  else lines.empties ++ lines.ending.toList

/-- Begin a line. -/
def begin (lines : Lines) (folded : Bool) (c : Char) : Lines :=
  { text := c :: lines.between folded c ++ lines.text, blank := isBlank c, inside := true }

/-- The text of all lines. -/
def close (lines : Lines) (chomping : Chomping) : String :=
  let ends := match chomping with
    | .strip => []
    | .clip => lines.ending.toList
    | .keep => lines.empties ++ lines.ending.toList
  String.ofList (ends ++ lines.text).reverse

end Lines

/-- Read lines that are indented to a column, up to a line that is not. -/
def scan (folded : Bool) (chomping : Chomping) (indentation : Nat) (lines : Lines) (place : Place) :
    List Char → Except SyntaxError (String × Cursor)
  | [] => .ok (lines.close chomping, ⟨place, []⟩)
  | c :: rest =>
      let on (lines : Lines) :=
        scan folded chomping indentation lines (place.after c) rest
      if lines.inside then
        if isBreak c then on { lines with ending := some c, inside := false }
        else on { lines with text := c :: lines.text }
      else if c = ' ' && place.column < indentation then on lines
      else if c = '\t' && place.column < indentation then .error (.unexpectedCharacter place)
      else if isBreak c then on { lines with empties := c :: lines.empties }
      else if place.column = indentation then on (lines.begin folded c)
      else .ok (lines.close chomping, ⟨place, c :: rest⟩)

end Block

/-- The text of the block scalar whose indicator a cursor has passed, in a block collection at a
column, if in any.  Its lines are indented further than the column: by as much as the digit after
the indicator says, or else by as much as its widest empty line at the start or its first line. -/
def Cursor.blockScalar (cursor : Cursor) (folded : Bool) (column : Option Nat) :
    Except SyntaxError (String × Cursor) := do
  let (chomping, increment, cursor) ← Block.header cursor
  match increment with
  | some increment =>
      Block.scan folded chomping (column.getD 0 + increment) {} cursor.place cursor.rest
  | none =>
      let (widest, empties, cursor) ← Block.measure 0 [] cursor.place cursor.rest
      let least := match column with
        | some column => column + 1
        | none => 1
      Block.scan folded chomping (max widest least) { empties } cursor.place cursor.rest

end Yaml
end Chip8
