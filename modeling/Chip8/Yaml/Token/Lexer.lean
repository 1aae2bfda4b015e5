import Chip8.Yaml.Scalar.Block
import Chip8.Yaml.Scalar.Plain
import Chip8.Yaml.Scalar.Quoted
import Chip8.Yaml.Token.Found

/-!
# Finding the tokens of a text

A key without a question mark is known to be one only when its colon is found.  So the lexer
remembers where a key may have begun, one candidate for every open flow collection and one outside
of them, and puts the sign of the key before the candidate's tokens when the colon comes.  The
colon has to be on the line of the candidate and at most 1024 octets after its start.
-/

namespace Chip8
namespace Yaml

/-- A place where a key may have begun. -/
structure Candidate where
  /-- Tokens found before it. -/
  position : Nat
  /-- Where it begins. -/
  place : Place
  /-- Whether nothing else than a key may stand there. -/
  required : Bool
deriving DecidableEq, Repr

namespace Candidate

/-- The most octets that a colon may be away from the start of its key. -/
def reach : Nat := 1024

/-- Whether a colon at a place is too far away. -/
def isStale (candidate : Candidate) (place : Place) : Bool :=
  candidate.place.line < place.line || candidate.place.offset + reach < place.offset

/-- Give a candidate up, which must not be required. -/
def drop : Option Candidate → Except SyntaxError (Option Candidate)
  | none => .ok none
  | some candidate =>
      if candidate.required then .error (.missingColon candidate.place) else .ok none

/-- Give a candidate up if a colon at a place is too far away. -/
def refresh (place : Place) (candidate : Option Candidate) :
    Except SyntaxError (Option Candidate) :=
  if candidate.any (·.isStale place) then drop candidate else .ok candidate

end Candidate

/-- The state of the lexer between two tokens. -/
structure Lexer where
  /-- Where it stands. -/
  cursor : Cursor
  /-- Whether a key may begin here. -/
  keyAllowed : Bool := true
  /-- The columns of the open block collections, the innermost first. -/
  columns : List Nat := []
  /-- Where a key may have begun in the innermost collection. -/
  candidate : Option Candidate := none
  /-- The same for the collections around the open flow collections, the innermost first. -/
  outer : List (Option Candidate) := []
  /-- The tokens found. -/
  found : Found := {}
deriving DecidableEq, Repr

namespace Lexer

/-- The place of the next character. -/
def place (lexer : Lexer) : Place := lexer.cursor.place

/-- Whether a flow collection is open. -/
def inFlow (lexer : Lexer) : Bool := !lexer.outer.isEmpty

/-- The least column of what belongs to the innermost block collection. -/
def indentation (lexer : Lexer) : Nat :=
  match lexer.columns with
  | column :: _ => column + 1
  | [] => 0

/-- The refusal of the next character. -/
def refuse {α : Type} (lexer : Lexer) : Except SyntaxError α :=
  .error (.unexpectedCharacter lexer.place)

/-- Add a token at the current place and go on from a cursor. -/
def emit (lexer : Lexer) (mark : Mark) (cursor : Cursor) : Lexer :=
  { lexer with found := lexer.found.push ⟨mark, lexer.place⟩, cursor }

/-- Add a token of one character. -/
def emitOne (lexer : Lexer) (mark : Mark) : Lexer :=
  lexer.emit mark (lexer.cursor.advance 1)

/-- Give up the candidate of the innermost collection. -/
def dropCandidate (lexer : Lexer) : Except SyntaxError Lexer := do
  return { lexer with candidate := ← Candidate.drop lexer.candidate }

/-- Take the current place as a candidate if a key may begin there.  At the column of the innermost
block collection, it has to be a key. -/
def beginKey (lexer : Lexer) : Except SyntaxError Lexer := do
  if lexer.keyAllowed then
    let required := !lexer.inFlow && lexer.indentation = lexer.place.column + 1
    let lexer ← lexer.dropCandidate
    return { lexer with
      candidate := some ⟨lexer.found.size, lexer.place, required⟩ }
  else return lexer

/-- Give up the candidate of the innermost collection if it is too far away.  Those of the
collections around it can wait until theirs is the innermost. -/
def refresh (lexer : Lexer) : Except SyntaxError Lexer := do
  return { lexer with candidate := ← Candidate.refresh lexer.place lexer.candidate }

/-- Close the innermost block collections as long as their columns are of a kind.  Inside a flow
collection indentation means nothing. -/
def closeBlocks (lexer : Lexer) (ended : Nat → Bool) : Lexer :=
  if lexer.inFlow then lexer
  else
    let closed := lexer.columns.takeWhile ended
    { lexer with
      columns := lexer.columns.dropWhile ended
      found := closed.foldl (fun found _ => found.push ⟨.dedent, lexer.place⟩) lexer.found }

/-- Open a block collection behind a number of the tokens found, if its column is to the right of
the innermost one. -/
def openBlock (lexer : Lexer) (position : Nat) (token : Token) : Lexer :=
  if !lexer.inFlow && lexer.indentation ≤ token.place.column then
    { lexer with
      columns := token.place.column :: lexer.columns
      found := lexer.found.insert position token }
  else lexer

/-- Open a block collection with a sign at the current place, where a key would be allowed. -/
def openHere (lexer : Lexer) (mark : Mark) : Except SyntaxError Lexer :=
  if lexer.inFlow then .ok lexer
  else if lexer.keyAllowed then
    .ok (lexer.openBlock lexer.found.size ⟨mark, lexer.place⟩)
  else lexer.refuse

/-- Whether a character is a mark of byte order at the start of a line. -/
def isOrderMark (place : Place) (c : Char) : Bool := c = '\uFEFF' && place.column = 0

/-- Pass over blanks, comments, line breaks and a mark of byte order at the start of every line.
Outside of flow collections a key may begin on a new line, and a tab may not stand before one. -/
def skipGap (inFlow keyAllowed comment : Bool) (place : Place) : List Char → Bool × Cursor
  | [] => (keyAllowed, ⟨place, []⟩)
  | c :: rest =>
      if isBreak c then skipGap inFlow (keyAllowed || !inFlow) false (place.after c) rest
      else if comment || isOrderMark place c || c = ' ' || c = '#' ||
          (c = '\t' && (inFlow || !keyAllowed)) then
        skipGap inFlow keyAllowed (comment || c = '#') (place.after c) rest
      else (keyAllowed, ⟨place, c :: rest⟩)

/-- To the start of the next token. -/
def approach (lexer : Lexer) : Lexer :=
  let (keyAllowed, cursor) :=
    skipGap lexer.inFlow lexer.keyAllowed false lexer.place lexer.cursor.rest
  { lexer with keyAllowed, cursor }

/-- Leave every block collection at a directive or at the mark of a document. -/
def leave (lexer : Lexer) : Except SyntaxError Lexer := do
  return { ← (lexer.closeBlocks fun _ => true).dropCandidate with keyAllowed := false }

/-- A directive. -/
def onDirective (lexer : Lexer) : Except SyntaxError Lexer := do
  let lexer ← lexer.leave
  let (directive, cursor) ← (lexer.cursor.advance 1).directive
  return lexer.emit (.directive directive) cursor

/-- The start or the end of a document. -/
def onMarker (lexer : Lexer) (mark : Mark) : Except SyntaxError Lexer := do
  let lexer ← lexer.leave
  return lexer.emit mark (lexer.cursor.advance 3)

/-- The start of a flow collection, which may be a key. -/
def onOpen (lexer : Lexer) (mark : Mark) : Except SyntaxError Lexer := do
  let lexer ← lexer.beginKey
  return { lexer.emitOne mark with
    keyAllowed := true, candidate := none, outer := lexer.candidate :: lexer.outer }

/-- The end of a flow collection. -/
def onClose (lexer : Lexer) (mark : Mark) : Except SyntaxError Lexer := do
  let lexer := { ← lexer.dropCandidate with keyAllowed := false }.emitOne mark
  match lexer.outer with
  | candidate :: outer => return { lexer with candidate, outer }
  | [] => return lexer

/-- A comma. -/
def onComma (lexer : Lexer) : Except SyntaxError Lexer := do
  return { ← lexer.dropCandidate with keyAllowed := true }.emitOne .comma

/-- A dash before an item. -/
def onDash (lexer : Lexer) : Except SyntaxError Lexer := do
  let lexer ← (← lexer.openHere .indentSequence).dropCandidate
  return { lexer with keyAllowed := true }.emitOne .dash

/-- A question mark before a key. -/
def onKey (lexer : Lexer) : Except SyntaxError Lexer := do
  let lexer ← (← lexer.openHere .indentMapping).dropCandidate
  return { lexer with keyAllowed := !lexer.inFlow }.emitOne .key

/-- A colon, which makes a key of the candidate if there is one. -/
def onColon (lexer : Lexer) : Except SyntaxError Lexer := do
  match lexer.candidate with
  | some ⟨position, place, _⟩ =>
      let lexer := { lexer with found := lexer.found.insert position ⟨.key, place⟩ }
      let lexer := lexer.openBlock position ⟨.indentMapping, place⟩
      return { lexer with candidate := none, keyAllowed := false }.emitOne .colon
  | none =>
      let lexer ← lexer.openHere .indentMapping
      return { lexer with keyAllowed := !lexer.inFlow }.emitOne .colon

/-- An alias, an anchor or a tag. -/
def onProperty (lexer : Lexer) (c : Char) : Except SyntaxError Lexer := do
  let lexer := { ← lexer.beginKey with keyAllowed := false }
  if c = '!' then
    let ((handle, suffix), cursor) ← lexer.cursor.tag lexer.inFlow
    return lexer.emit (.tag handle suffix) cursor
  else
    let (name, cursor) ← (lexer.cursor.advance 1).anchorName
    return lexer.emit (if c = '*' then .alias name else .anchor name) cursor

/-- A block scalar. -/
def onBlock (lexer : Lexer) (style : Style) : Except SyntaxError Lexer := do
  let lexer := { ← lexer.dropCandidate with keyAllowed := true }
  let (text, cursor) ←
    (lexer.cursor.advance 1).blockScalar (style = .folded) lexer.columns.head?
  return lexer.emit (.scalar text style) cursor

/-- A quoted scalar. -/
def onQuote (lexer : Lexer) (c : Char) : Except SyntaxError Lexer := do
  let lexer := { ← lexer.beginKey with keyAllowed := false }
  let inside := lexer.cursor.advance 1
  let (text, cursor) ← if c = '"' then inside.doubleQuoted else inside.singleQuoted
  return lexer.emit (.scalar text .quoted) cursor

/-- A plain scalar.  If a line break comes after it, a key may begin behind it. -/
def onPlain (lexer : Lexer) : Except SyntaxError Lexer := do
  let lexer ← lexer.beginKey
  let scalar ← lexer.cursor.plainScalar lexer.inFlow lexer.indentation
  return { lexer with keyAllowed := scalar.broken }.emit (.scalar scalar.text .plain)
    scalar.cursor

/-- The token at a character that is followed by others. -/
def onToken (lexer : Lexer) (c : Char) (rest : List Char) : Except SyntaxError Lexer :=
  let separate := endsWord rest
  if lexer.place.column = 0 && c = '%' then lexer.onDirective
  else if lexer.cursor.atMarkerOf '-' then lexer.onMarker .documentStart
  else if lexer.cursor.atMarkerOf '.' then lexer.onMarker .documentEnd
  else if c = '[' then lexer.onOpen .openSequence
  else if c = '{' then lexer.onOpen .openMapping
  else if c = ']' then lexer.onClose .closeSequence
  else if c = '}' then lexer.onClose .closeMapping
  else if c = ',' then lexer.onComma
  else if c = '-' && separate then lexer.onDash
  else if c = '?' && (lexer.inFlow || separate) then lexer.onKey
  else if c = ':' && (lexer.inFlow || separate) then lexer.onColon
  else if c = '*' || c = '&' || c = '!' then lexer.onProperty c
  else if c = '|' && !lexer.inFlow then lexer.onBlock .literal
  else if c = '>' && !lexer.inFlow then lexer.onBlock .folded
  else if c = '\'' || c = '"' then lexer.onQuote c
  else if isReserved c then lexer.refuse
  else lexer.onPlain

/-- The tokens found when the text is over. -/
def finish (lexer : Lexer) : Except SyntaxError (List Token) := do
  return (← lexer.leave).found.toList

/-- Find the remaining tokens, of which there are fewer than the bound. -/
def run : Nat → Lexer → Except SyntaxError (List Token)
  | 0, _ => .error .unexpectedEnd
  | bound + 1, lexer => do
      let lexer ← lexer.approach.refresh
      let lexer := lexer.closeBlocks (lexer.place.column < ·)
      match lexer.cursor.rest with
      | [] => lexer.finish
      | c :: rest => run bound (← lexer.onToken c rest)

/-- The lexer at the start of a text. -/
def ofText (text : List Char) : Lexer where
  cursor := ⟨{}, unifyBreaks text⟩

end Lexer

/-- The tokens of a text.  Every token takes a character, which bounds their number. -/
def Token.ofText (text : String) : Except SyntaxError (List Token) :=
  let chars := text.toList
  if chars.all isAllowed then (Lexer.ofText chars).run (chars.length + 1)
  else .error .controlCharacter

end Yaml
end Chip8
