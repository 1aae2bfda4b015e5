import Chip8.Settings
import Chip8.Yaml.Node.Grammar
import Chip8.Yaml.Scalar

/-!
# Reading a configuration

Settings are read from the node of a configuration text.  A field that is not known is passed
over, a known field may come only once, and a field that is missing keeps its default.  A value
is taken as it is written: there is no conversion between texts, numbers and truth values.
Nothing may stand in place of the two machine settings and the number of cycles only.  Aliases are
followed as they are met, and only so many of them.
-/

namespace Chip8

/-- Why a text does not configure anything. -/
inductive ConfigurationError where
  /-- The text has no structure. -/
  | malformed (cause : Yaml.SyntaxError)
  /-- A value of a kind that the field does not take. -/
  | unexpectedValue (field : String)
  | duplicateField (field : String)
  | missingField (field : String)
  | tooManyAliases
deriving DecidableEq, Repr

namespace ConfigurationError

/-- The wording of a failed reading. -/
def message : ConfigurationError → String
  | malformed cause => cause.message
  | unexpectedValue field => field ++ ": unexpected value"
  | duplicateField field => "duplicate field " ++ field
  | missingField field => "missing field " ++ field
  | tooManyAliases => "too many aliases"

end ConfigurationError

namespace Configuration

open Yaml (Document Node)

/-- The largest integer of a configuration. -/
def integerBound : Nat := UInt64.size

/-- The text of a scalar, however it is written. -/
def text? : Node → Option String
  | .scalar text _ _ _ => some text
  | _ => none

/-- An integer written as one. -/
def natural? (node : Node) : Option Nat :=
  (node.word? "int").bind fun text => (Yaml.Scalar.natural? text).filter (· < integerBound)

/-- A truth value written as one. -/
def boolean? (node : Node) : Option Bool :=
  (node.word? "bool").bind Yaml.Scalar.boolean?

/-- Whether nothing, or a word for nothing, is written where a value could stand. -/
def isAbsent : Node → Bool
  | .scalar text .plain _ _ => text.isEmpty || Yaml.Scalar.isNull text
  | _ => false

/-- An integer, or nothing.  A tag other than that of nothing asks for an integer, and the tag of
nothing asks for a word for it. -/
def optionalNatural? (node : Node) : Option (Option Nat) :=
  match node with
  | .scalar text .plain (some tag) _ =>
      if tag = .ofKind "null" then if Yaml.Scalar.isNull text then some none else none
      else (natural? node).map some
  | _ => if isAbsent node then some none else (natural? node).map some

/-- The theme of a name.  The name may stand as a tag before nothing. -/
def theme? (node : Node) : Option Theme :=
  match node with
  | .scalar text _ tag _ =>
      match tag.bind (·.localName?) with
      | some name => if isAbsent node then Theme.ofName? name else none
      | none => Theme.ofName? text
  | _ => none

/-- The key of a number. -/
def key? (node : Node) : Option Key := do
  let value ← Yaml.Scalar.integer? (← node.word? "int")
  (Key.read (.integer value)).toOption

/-- A step of the reading of a document, which knows how many aliases may still be followed. -/
abbrev Reading := ReaderT Document (StateT Nat (Except ConfigurationError))

namespace Reading

/-- The answer of a reading of a document that has not followed an alias yet. -/
def run {α : Type} (reading : Reading α) (document : Document) : Except ConfigurationError α :=
  StateT.run' (ReaderT.run reading document) document.aliasLimit

end Reading

/-- The node that a node stands for.  If it is an alias, there is one less to follow. -/
def follow (node : Node) : Reading Node := do
  match node with
  | .alias anchor =>
      match ← get with
      | 0 => throw .tooManyAliases
      | left + 1 =>
          set left
          return ((← read).target? anchor).getD node
  | _ => return node

/-- The known fields of a mapping, none of which may come twice.  Every key has to be a text. -/
def fields (field : String) (known : List String) (node : Node) :
    Reading (List (String × Node)) := do
  match node.entries? with
  | none => throw (.unexpectedValue field)
  | some entries =>
      let named ← entries.filterMapM fun (key, value) => do
        match text? (← follow key) with
        | some name =>
            if known.contains name then return some (name, ← follow value) else return none
        | none => throw (.unexpectedValue field)
      match known.find? fun name => 1 < named.countP (·.1 == name) with
      | some name => throw (.duplicateField name)
      | none => return named

/-- The value of a field, or its default where the field is missing. -/
def field {α : Type} (named : List (String × Node)) (name : String) (read : Node → Option α)
    (fallback : Except ConfigurationError α) : Except ConfigurationError α :=
  match named.lookup name with
  | none => fallback
  | some node =>
      match read node with
      | some value => .ok value
      | none => .error (.unexpectedValue name)

/-- The settings of the machine. -/
def readMachine (node : Node) : Reading MachineSettings := do
  let named ← fields "vm" ["clock_frequency", "seed"] node
  let clockFrequency ← field named "clock_frequency" optionalNatural? (.ok none)
  let seed ← field named "seed" optionalNatural? (.ok none)
  return { clockFrequency := clockFrequency.map UInt64.ofNat, seed := seed.map UInt64.ofNat }

/-- A change of a key, which goes down unless it says otherwise. -/
def readKeyChange (node : Node) : Reading KeyChange := do
  let named ← fields "keys" ["cycle", "key", "pressed"] node
  let cycle ← field named "cycle" natural? (.error (.missingField "cycle"))
  let key ← field named "key" key? (.error (.missingField "key"))
  let pressed ← field named "pressed" boolean? (.ok true)
  return { cycle, key, pressed }

/-- A cycle at which the theme changes. -/
def readThemeChange (node : Node) : Reading Nat :=
  match natural? node with
  | some cycle => return cycle
  | none => throw (.unexpectedValue "theme_changes")

/-- The items of the sequence in a field, each read in the same way. -/
def list {α : Type} (named : List (String × Node)) (name : String) (read : Node → Reading α) :
    Reading (List α) := do
  let items ← field named name Node.items? (.ok [])
  items.mapM fun item => do read (← follow item)

/-- The settings of a document. -/
def readSettings : Reading Settings := do
  let named ← fields "configuration"
    ["vm", "theme", "max_cycles", "keys", "theme_changes", "color"] (← read).root
  let machine ← readMachine (← field named "vm" some (.ok .empty))
  let theme ← field named "theme" theme? (.ok .plain)
  let maxCycles ← field named "max_cycles" optionalNatural? (.ok none)
  let keys ← list named "keys" readKeyChange
  let themeChanges ← list named "theme_changes" readThemeChange
  let colour ← field named "color" boolean? (.ok false)
  return { machine, theme, maxCycles, keys, themeChanges, colour }

end Configuration

/-- The settings that a configuration text makes, with both scripts in order.  A text without a
document makes the default settings. -/
def Settings.ofText (text : String) : Except ConfigurationError Settings :=
  match Yaml.Document.ofText? text with
  | .error cause => .error (.malformed cause)
  | .ok none => .ok {}
  | .ok (some document) => (Configuration.readSettings.run document).map Settings.ordered

end Chip8
