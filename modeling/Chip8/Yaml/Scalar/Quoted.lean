import Chip8.Hex
import Chip8.Yaml.Scalar.Gap

/-!
# Quoted scalars

A scalar in single quotes writes a single quote twice.  A scalar in double quotes has escapes that
begin with a backslash; a line break after a backslash counts for nothing.  Either may go over
several lines, but no line of it may look like the mark of a document.
-/

namespace Chip8
namespace Yaml
namespace Quoted

/-- The character that a one-letter escape stands for. -/
def escaped? (c : Char) : Option Char :=
  match c with
  | '0' => some '\x00'
  | 'a' => some '\x07'
  | 'b' => some '\x08'
  | 't' | '\t' => some '\t'
  | 'n' => some '\n'
  | 'v' => some '\x0b'
  | 'f' => some '\x0c'
  | 'r' => some '\r'
  | 'e' => some '\x1b'
  | ' ' | '"' | '/' | '\\' => some c
  | 'N' => some '\u0085'
  | '_' => some '\u00a0'
  | 'L' => some '\u2028'
  | 'P' => some '\u2029'
  | _ => none

/-- The number of digits of a hexadecimal escape. -/
def escapeLength? (c : Char) : Option Nat :=
  match c with
  | 'x' => some 2
  | 'u' => some 4
  | 'U' => some 8
  | _ => none

/-- What of an escape has been read. -/
inductive Escape where
  /-- The backslash. -/
  | begun
  /-- Hexadecimal digits. -/
  | digits (remaining value : Nat)
deriving DecidableEq, Repr

/-- Read a scalar in single quotes to its end, given what was read in reverse and the gap since. -/
def scanSingle (text : List Char) (gap : Gap) (place : Place) :
    List Char → Except SyntaxError (String × Cursor)
  | [] => .error (.unclosedQuote place)
  | '\'' :: '\'' :: rest =>
      scanSingle ('\'' :: gap.meant ++ text) .empty ((place.after '\'').after '\'') rest
  | '\'' :: rest =>
      .ok (String.ofList (gap.meant ++ text).reverse, ⟨place.after '\'', rest⟩)
  | c :: rest =>
      if isSpace c then scanSingle text (gap.add c) (place.after c) rest
      else if Cursor.atMarker ⟨place, c :: rest⟩ then .error (.unexpectedCharacter place)
      else scanSingle (c :: gap.meant ++ text) .empty (place.after c) rest

/-- Read a scalar in double quotes to its end, given the escape that it is in the middle of, what
was read in reverse and the gap since. -/
def scanDouble (escape : Option Escape) (text : List Char) (gap : Gap) (place : Place) :
    List Char → Except SyntaxError (String × Cursor)
  | [] => .error (.unclosedQuote place)
  | c :: rest =>
      match escape with
      | some .begun =>
          if isBreak c then scanDouble none text (.breaks none []) (place.after c) rest
          else
            match escaped? c, escapeLength? c with
            | some meant, _ => scanDouble none (meant :: text) .empty (place.after c) rest
            | none, some length =>
                scanDouble (some (.digits length 0)) text .empty (place.after c) rest
            | none, none => .error (.invalidEscape place)
      | some (.digits remaining value) =>
          match Hex.value? c with
          | none => .error (.invalidEscape place)
          | some digit =>
              let value := value * 16 + digit
              if 1 < remaining then
                scanDouble (some (.digits (remaining - 1) value)) text .empty (place.after c) rest
              else if value.isValidChar then
                scanDouble none (Char.ofNat value :: text) .empty (place.after c) rest
              else .error (.invalidEscape place)
      | none =>
          if isSpace c then scanDouble none text (gap.add c) (place.after c) rest
          else if Cursor.atMarker ⟨place, c :: rest⟩ then .error (.unexpectedCharacter place)
          else
            let text := gap.meant ++ text
            if c = '"' then .ok (String.ofList text.reverse, ⟨place.after c, rest⟩)
            else if c = '\\' then scanDouble (some .begun) text .empty (place.after c) rest
            else scanDouble none (c :: text) .empty (place.after c) rest

end Quoted

/-- The text of the scalar in single quotes whose opening quote a cursor has passed. -/
def Cursor.singleQuoted (cursor : Cursor) : Except SyntaxError (String × Cursor) :=
  Quoted.scanSingle [] .empty cursor.place cursor.rest

/-- The text of the scalar in double quotes whose opening quote a cursor has passed. -/
def Cursor.doubleQuoted (cursor : Cursor) : Except SyntaxError (String × Cursor) :=
  Quoted.scanDouble none [] .empty cursor.place cursor.rest

end Yaml
end Chip8
