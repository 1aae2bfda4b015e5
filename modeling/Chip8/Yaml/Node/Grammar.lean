import Chip8.Yaml.Node
import Chip8.Yaml.Token.Lexer

/-!
# Nodes from tokens

Nodes are read from tokens by recursive descent.  At most two steps of the descent pass between one
token and the next, so that the number of tokens bounds its depth.
-/

namespace Chip8
namespace Yaml

/-- What is left to read of a document. -/
structure Remainder where
  /-- The tokens that are left. -/
  tokens : List Token
  /-- The names of anchors with the number that each had last. -/
  anchors : List (String × Nat) := []
  /-- What tag handles stand for. -/
  declarations : List Tag.Declaration := []

/-- A step of the reading of a document. -/
abbrev Reading := StateT Remainder (Except SyntaxError)

namespace Reading

/-- The next token, if there is one. -/
def peek : Reading (Option Mark) := do
  return (← get).tokens.head?.map (·.mark)

/-- Whether the next token is one of several. -/
def isNext (marks : List Mark) : Reading Bool := do
  return (← peek).any marks.contains

/-- Pass over the next token. -/
def skip : Reading Unit := modify fun remainder =>
  { remainder with tokens := remainder.tokens.drop 1 }

/-- The refusal of the next token. -/
def refuse {α : Type} : Reading α := do
  match (← get).tokens with
  | [] => throw .unexpectedEnd
  | token :: _ => throw (.unexpectedToken token.place)

/-- The number of a new anchor: as many names as there are.  A name may be used again. -/
def mark (name : String) : Reading Nat := modifyGet fun remainder =>
  let number := remainder.anchors.length
  let others := remainder.anchors.filter (·.1 ≠ name)
  (number, { remainder with anchors := (name, number) :: others })

/-- The number of the anchor that an alias names. -/
def lookUp (name : String) : Reading Nat := do
  match (← get).anchors.lookup name with
  | some number => return number
  | none => throw (.unknownAnchor name)

/-- The anchor at the next token, if there is one. -/
def anchor? : Reading (Option Nat) := do
  match ← peek with
  | some (.anchor name) => skip; return some (← mark name)
  | _ => return none

/-- The tag at the next token, if there is one. -/
def tag? : Reading (Option Tag) := do
  match ← peek with
  | some (.tag handle suffix) =>
      skip
      return some (← Tag.resolve (← get).declarations handle suffix)
  | _ => return none

/-- A comma. -/
def comma : Reading Unit := do
  if ← isNext [.comma] then skip else refuse

/-- The anchor and the tag of a node, in either order. -/
def properties : Reading (Option Nat × Option Tag) := do
  match ← anchor? with
  | some anchor => return (some anchor, ← tag?)
  | none =>
      let tag ← tag?
      if tag.isSome then return (← anchor?, tag) else return (none, none)

/-- A node of which at most the anchor and the tag are written. -/
def bare (anchor : Option Nat) (tag : Option Tag) : Reading Node :=
  if anchor.isSome || tag.isSome then return .scalar "" .plain tag anchor else refuse

mutual

/-- A node.  Block collections are allowed or not, and so is a block sequence whose dashes are not
indented. -/
def node (bound : Nat) (block unindented : Bool) : Reading Node := do
  match bound with
  | 0 => refuse
  | bound + 1 =>
      match ← peek with
      | some (.alias name) =>
          skip
          return .alias (← lookUp name)
      | _ =>
          let (anchor, tag) ← properties
          match ← peek, block, unindented with
          | some .dash, _, true => return .sequence (← unindentedItems bound) anchor
          | some (.scalar text style), _, _ =>
              skip
              return .scalar text style tag anchor
          | some .openSequence, _, _ =>
              skip
              return .sequence (← flowItems bound true) anchor
          | some .openMapping, _, _ =>
              skip
              return .mapping (← flowEntries bound true) anchor
          | some .indentSequence, true, _ =>
              skip
              return .sequence (← blockItems bound) anchor
          | some .indentMapping, true, _ =>
              skip
              return .mapping (← blockEntries bound) anchor
          | _, _, _ => bare anchor tag

/-- A node, or nothing before one of several tokens. -/
def nodeUnless (bound : Nat) (block unindented : Bool) (marks : List Mark) : Reading Node := do
  match bound with
  | 0 => refuse
  | bound + 1 => if ← isNext marks then return .empty else node bound block unindented

/-- The items of a block sequence up to its end. -/
def blockItems (bound : Nat) : Reading (List Node) := do
  match bound with
  | 0 => refuse
  | bound + 1 =>
      match ← peek with
      | some .dash =>
          skip
          let item ← nodeUnless bound true false [.dash, .dedent]
          return item :: (← blockItems bound)
      | some .dedent =>
          skip
          return []
      | _ => refuse

/-- The items of a block sequence whose dashes stand at the column of its key. -/
def unindentedItems (bound : Nat) : Reading (List Node) := do
  match bound with
  | 0 => refuse
  | bound + 1 =>
      match ← peek with
      | some .dash =>
          skip
          let item ← nodeUnless bound true false [.dash, .key, .colon, .dedent]
          return item :: (← unindentedItems bound)
      | _ => return []

/-- The entries of a block mapping up to its end. -/
def blockEntries (bound : Nat) : Reading (List (Node × Node)) := do
  match bound with
  | 0 => refuse
  | bound + 1 =>
      match ← peek with
      | some .key =>
          skip
          let key ← nodeUnless bound true true [.key, .colon, .dedent]
          let value ← valueUnless bound true true [.key, .colon, .dedent]
          return (key, value) :: (← blockEntries bound)
      | some .dedent =>
          skip
          return []
      | _ => refuse

/-- The value after a key: a node after a colon, or nothing. -/
def valueUnless (bound : Nat) (block unindented : Bool) (marks : List Mark) : Reading Node := do
  match bound with
  | 0 => refuse
  | bound + 1 =>
      if ← isNext [.colon] then
        skip
        nodeUnless bound block unindented marks
      else return .empty

/-- The items of a flow sequence up to its closing bracket.  A pair may stand for a mapping with a
single entry. -/
def flowItems (bound : Nat) (first : Bool) : Reading (List Node) := do
  match bound with
  | 0 => refuse
  | bound + 1 =>
      if !first && !(← isNext [.closeSequence]) then comma
      match ← peek with
      | some .closeSequence =>
          skip
          return []
      | some .key =>
          skip
          let key ← flowKey bound
          let value ← valueUnless bound false false [.comma, .closeSequence]
          return .mapping [(key, value)] none :: (← flowItems bound false)
      | _ =>
          let item ← node bound false false
          return item :: (← flowItems bound false)

/-- The key of a pair in a flow sequence.  If nothing is written for it, the token that shows this
is passed over. -/
def flowKey (bound : Nat) : Reading Node := do
  match bound with
  | 0 => refuse
  | bound + 1 =>
      if ← isNext [.colon, .comma, .closeSequence] then
        skip
        return .empty
      else node bound false false

/-- The entries of a flow mapping up to its closing brace.  A key may stand without a value. -/
def flowEntries (bound : Nat) (first : Bool) : Reading (List (Node × Node)) := do
  match bound with
  | 0 => refuse
  | bound + 1 =>
      if !first && !(← isNext [.closeMapping]) then comma
      match ← peek with
      | some .closeMapping =>
          skip
          return []
      | some .key =>
          skip
          let key ← nodeUnless bound false false [.colon, .comma, .closeMapping]
          let value ← valueUnless bound false false [.comma, .closeMapping]
          return (key, value) :: (← flowEntries bound false)
      | _ =>
          let key ← node bound false false
          return (key, .empty) :: (← flowEntries bound false)

end

/-- The directives before a document and the mark of its start. -/
def preamble : Reading Unit := do
  let directives := (← get).tokens.map (·.mark.directive?) |>.takeWhile (·.isSome) |>.filterMap id
  match Directive.declarations? directives with
  | none => refuse
  | some declarations =>
      modify fun remainder =>
        { remainder with tokens := remainder.tokens.drop directives.length, declarations }
      if ← isNext [.documentStart] then skip else refuse

/-- The root of a document. -/
def root (bound : Nat) : Reading Node := do
  match ← peek with
  | some .documentStart | some (.directive _) =>
      preamble
      match ← peek with
      | none | some .documentStart | some .documentEnd | some (.directive _) => return .empty
      | _ => node bound true false
  | _ => node bound true false

/-- A document up to the end of the text.  Marks of its end may follow it, but nothing else. -/
def document : Reading Document := do
  let tokens := (← get).tokens
  let root ← root (4 * tokens.length + 4)
  modify fun remainder =>
    { remainder with tokens := remainder.tokens.dropWhile (·.mark = .documentEnd) }
  if (← peek).isSome then refuse else return { root }

end Reading

/-- The document of a text, if there is one. -/
def Document.ofText? (text : String) : Except SyntaxError (Option Document) := do
  match ← Token.ofText text with
  | [] => return none
  | tokens => return some (← Reading.document.run' { tokens })

end Yaml
end Chip8
