import Chip8.Hex
import Chip8.Yaml.Cursor

/-!
# Tags

A tag names the kind of a node.  It is written as a handle and a suffix, and stands for the suffix
after what the handle is declared to stand for.  Escapes in a tag write single octets, so the tag
itself is kept as octets, up to an octet zero.
-/

namespace Chip8
namespace Yaml

/-- A tag as it stands for itself. -/
structure Tag where
  /-- Its octets. -/
  octets : List UInt8
deriving DecidableEq, Repr

namespace Tag

/-- The octets of a text. -/
def ofText (text : String) : Tag := ⟨text.toUTF8.data.toList⟩

/-- The tag of a single exclamation mark, which names no kind. -/
def unspecific : Tag := ofText "!"

/-- What the tags of the common kinds begin with. -/
def common : String := "tag:yaml.org,2002:"

/-- The tag of a common kind. -/
def ofKind (kind : String) : Tag := ofText (common ++ kind)

/-- What follows the exclamation mark of a tag that begins with one, if that is a text. -/
def localName? (tag : Tag) : Option String :=
  match tag.octets with
  | octet :: rest => if octet = 0x21 then String.fromUTF8? ⟨rest.toArray⟩ else none
  | [] => none

/-- What a handle stands for. -/
structure Declaration where
  /-- The handle, with its exclamation marks. -/
  handle : String
  /-- The octets that it stands for. -/
  stem : List UInt8
deriving DecidableEq, Repr

/-- What the two handles without a name stand for if nothing else is declared. -/
def defaults : List Declaration := [⟨"!", unspecific.octets⟩, ⟨"!!", (ofText common).octets⟩]

/-- The tag that a handle and a suffix stand for.  A tag without a handle stands for itself. -/
def resolve (declarations : List Declaration) (handle : String) (suffix : List UInt8) :
    Except SyntaxError Tag :=
  if handle.isEmpty then .ok ⟨suffix⟩
  else
    match (declarations ++ defaults).find? (·.handle = handle) with
    | some declaration => .ok ⟨declaration.stem ++ suffix⟩
    | none => .error (.undeclaredHandle handle)

/-- Characters of a tag.  Those of flow sequences may stand where the end of the tag is marked. -/
def isTagCharacter (enclosed : Bool) (c : Char) : Bool :=
  isNameCharacter c || [';', '/', '?', ':', '@', '&', '=', '+', '$', '.', '%', '!', '~', '*', '\'',
    '(', ')'].contains c || (enclosed && [',', '[', ']'].contains c)

/-- The number of octets that make a character together with a first octet. -/
def sequenceLength? (octet : Nat) : Option Nat :=
  if octet < 0x80 then some 1
  else if octet < 0xC0 then none
  else if octet < 0xE0 then some 2
  else if octet < 0xF0 then some 3
  else if octet < 0xF8 then some 4
  else none

/-- The number of octets that have to follow an escaped octet, given how many had to come before
it. -/
def outstanding? (before octet : Nat) : Option Nat :=
  match before with
  | 0 => (sequenceLength? octet).map (· - 1)
  | before + 1 => if 0x80 ≤ octet && octet < 0xC0 then some before else none

/-- Read octets of a tag, given those that were read in reverse and the number of escaped octets
that have to follow. -/
def scanOctets (enclosed : Bool) (octets : List UInt8) (missing : Nat) (place : Place) :
    List Char → Except SyntaxError (List UInt8 × Cursor)
  | '%' :: high :: low :: rest => do
      let octet := do return (← Hex.value? high) * 16 + (← Hex.value? low)
      match octet.bind fun octet => (outstanding? missing octet).map (octet, ·) with
      | some (octet, missing) =>
          scanOctets enclosed (octet.toUInt8 :: octets) missing
            (((place.after '%').after high).after low) rest
      | none => .error (.malformedName place)
  | c :: rest =>
      if c = '%' || 0 < missing then .error (.malformedName place)
      else if isTagCharacter enclosed c then
        scanOctets enclosed (c.toNat.toUInt8 :: octets) 0 (place.after c) rest
      else .ok (octets.reverse, ⟨place, c :: rest⟩)
  | [] =>
      if 0 < missing then .error (.malformedName place) else .ok (octets.reverse, ⟨place, []⟩)

end Tag

namespace Cursor

/-- The octets of a tag at a cursor, of which there has to be one. -/
def tagOctets (cursor : Cursor) (enclosed : Bool) : Except SyntaxError (List UInt8 × Cursor) := do
  let (octets, next) ← Tag.scanOctets enclosed [] 0 cursor.place cursor.rest
  if octets.isEmpty then throw (.malformedName cursor.place)
  return (octets.takeWhile (· ≠ 0), next)

/-- The handle and the suffix of a tag in angle brackets, whose opening bracket a cursor has
passed. -/
def enclosedTag (cursor : Cursor) : Except SyntaxError ((String × List UInt8) × Cursor) := do
  let (suffix, cursor) ← cursor.tagOctets true
  if cursor.rest.head? ≠ some '>' then throw (.malformedName cursor.place)
  return (("", suffix), cursor.advance 1)

/-- The handle and the suffix of a tag whose exclamation mark a cursor has passed.  A name that no
other mark follows belongs to the suffix, and a single mark is the unspecific tag. -/
def shortTag (cursor : Cursor) : Except SyntaxError ((String × List UInt8) × Cursor) := do
  let (name, cursor) := cursor.span isNameCharacter
  if cursor.rest.head? = some '!' then do
    let (suffix, cursor) ← (cursor.advance 1).tagOctets false
    return (("!" ++ String.ofList name ++ "!", suffix), cursor)
  else do
    let (octets, cursor) ← Tag.scanOctets false [] 0 cursor.place cursor.rest
    let suffix := (Tag.ofText (String.ofList name)).octets ++ octets.takeWhile (· ≠ 0)
    return (if suffix.isEmpty then ("", Tag.unspecific.octets) else ("!", suffix), cursor)

/-- The handle and the suffix of the tag at a cursor. -/
def tag (cursor : Cursor) (inFlow : Bool) :
    Except SyntaxError ((String × List UInt8) × Cursor) := do
  let (written, next) ←
    if (cursor.rest.drop 1).head? = some '<' then (cursor.advance 2).enclosedTag
    else (cursor.advance 1).shortTag
  if next.endsWord || (inFlow && next.rest.head? = some ',') then return (written, next)
  else throw (.malformedName next.place)

/-- The name of the anchor or alias whose sign a cursor has passed. -/
def anchorName (cursor : Cursor) : Except SyntaxError (String × Cursor) :=
  let (name, next) := cursor.span isNameCharacter
  let ended := next.rest.head?.any fun c =>
    ['?', ':', ',', ']', '}', '%', '@', '\x60'].contains c
  if !name.isEmpty && (next.endsWord || ended) then .ok (String.ofList name, next)
  else .error (.malformedName cursor.place)

end Cursor
end Yaml
end Chip8
