import Chip8.Yaml.Tag

/-!
# Directives

Lines before the start of a document that give the version of its form or declare a tag handle.
-/

namespace Chip8
namespace Yaml

/-- A directive. -/
inductive Directive where
  /-- The version of the form. -/
  | version (major minor : Nat)
  /-- What a tag handle stands for. -/
  | tag (declaration : Tag.Declaration)
deriving DecidableEq, Repr

namespace Directive

/-- What the directives of a document declare.  The version comes at most once and is 1.1 or 1.2,
and a handle is declared at most once. -/
def declarations? (directives : List Directive) : Option (List Tag.Declaration) :=
  let versions := directives.filterMap fun
    | .version major minor => some (major, minor)
    | .tag _ => none
  let declarations := directives.filterMap fun
    | .version _ _ => none
    | .tag declaration => some declaration
  let known := versions.all fun version => version = (1, 1) || version = (1, 2)
  if versions.length ≤ 1 && known && (declarations.map (·.handle)).Nodup then some declarations
  else none

end Directive

namespace Cursor

/-- A number of at most nine digits. -/
def versionNumber (cursor : Cursor) : Except SyntaxError (Nat × Cursor) :=
  let (digits, next) := cursor.span Char.isDigit
  if 0 < digits.length && digits.length ≤ 9 then
    .ok (digits.foldl (fun value c => value * 10 + (c.toNat - '0'.toNat)) 0, next)
  else .error (.malformedName cursor.place)

/-- The version of a directive. -/
def version (cursor : Cursor) : Except SyntaxError (Directive × Cursor) := do
  let (major, cursor) ← (cursor.skip isBlank).versionNumber
  if cursor.rest.head? ≠ some '.' then throw (.malformedName cursor.place)
  let (minor, cursor) ← (cursor.advance 1).versionNumber
  return (.version major minor, cursor)

/-- The handle of a declaration: a name between exclamation marks, or a mark alone. -/
def handle (cursor : Cursor) : Except SyntaxError (String × Cursor) := do
  if cursor.rest.head? ≠ some '!' then throw (.malformedName cursor.place)
  let (name, next) := (cursor.advance 1).span isNameCharacter
  if next.rest.head? = some '!' then
    return ("!" ++ String.ofList name ++ "!", next.advance 1)
  else if name.isEmpty then return ("!", next)
  else throw (.malformedName cursor.place)

/-- The declaration of a directive. -/
def declaration (cursor : Cursor) : Except SyntaxError (Directive × Cursor) := do
  let (handle, cursor) ← (cursor.skip isBlank).handle
  if !cursor.rest.head?.any isBlank then throw (.malformedName cursor.place)
  let (stem, cursor) ← (cursor.skip isBlank).tagOctets true
  if cursor.endsWord then return (.tag ⟨handle, stem⟩, cursor)
  else throw (.malformedName cursor.place)

/-- The directive whose percent sign a cursor has passed, and the cursor on the next line. -/
def directive (cursor : Cursor) : Except SyntaxError (Directive × Cursor) := do
  let (name, next) := cursor.span isNameCharacter
  if !next.endsWord then throw (.malformedName next.place)
  let (directive, next) ←
    if String.ofList name = "YAML" then next.version
    else if String.ofList name = "TAG" then next.declaration
    else throw (.malformedName cursor.place)
  return (directive, ← next.finishLine)

end Cursor
end Yaml
end Chip8
