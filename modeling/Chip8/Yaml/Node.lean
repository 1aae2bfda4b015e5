import Chip8.Yaml.Token

/-!
# Nodes of a configuration text

A text holds at most one document, whose root is a node: a scalar, a sequence of nodes, a mapping
from nodes to nodes in the order of its entries, or an alias.  A node may have an anchor, which is
known by a number, and an alias gives the number of the node that it stands for.
-/

namespace Chip8
namespace Yaml

/-- A node.  All but an alias may be marked by the number of an anchor. -/
inductive Node where
  | scalar (text : String) (style : Style) (tag : Option Tag) (anchor : Option Nat)
  | sequence (items : List Node) (anchor : Option Nat)
  /-- A mapping.  The same key may come more than once. -/
  | mapping (entries : List (Node × Node)) (anchor : Option Nat)
  /-- A reference to a node by its anchor. -/
  | alias (anchor : Nat)

namespace Node

/-- What stands where nothing is written. -/
def empty : Node := .scalar "" .plain none none

/-- The anchor of a node. -/
def anchor? : Node → Option Nat
  | .scalar _ _ _ anchor | .sequence _ anchor | .mapping _ anchor => anchor
  | .alias _ => none

mutual

/-- The nodes that have an anchor, among a node and those below it, put before others that begin
earlier.  A node stands behind those that begin after it. -/
def anchored (node : Node) (earlier : List (Nat × Node)) : List (Nat × Node) :=
  let earlier := (node.anchor?.map fun anchor => (anchor, node)).toList ++ earlier
  match node with
  | .sequence items _ => anchoredItems items earlier
  | .mapping entries _ => anchoredEntries entries earlier
  | _ => earlier

/-- The same for the items of a sequence. -/
def anchoredItems (items : List Node) (earlier : List (Nat × Node)) : List (Nat × Node) :=
  match items with
  | [] => earlier
  | item :: items => anchoredItems items (anchored item earlier)

/-- The same for the keys and values of a mapping. -/
def anchoredEntries (entries : List (Node × Node)) (earlier : List (Nat × Node)) :
    List (Nat × Node) :=
  match entries with
  | [] => earlier
  | (key, value) :: entries => anchoredEntries entries (anchored value (anchored key earlier))

end

mutual

/-- The size of a node: one for a scalar or an alias, and two for the ends of a collection besides
what it holds. -/
def size : Node → Nat
  | .sequence items _ => sizeOfItems items + 2
  | .mapping entries _ => sizeOfEntries entries + 2
  | _ => 1

/-- The size of the items of a sequence. -/
def sizeOfItems : List Node → Nat
  | [] => 0
  | item :: items => size item + sizeOfItems items

/-- The size of the keys and values of a mapping. -/
def sizeOfEntries : List (Node × Node) → Nat
  | [] => 0
  | (key, value) :: entries => size key + size value + sizeOfEntries entries

end

/-- The text of a scalar that may stand for a value of a kind: written without quotes, or below a
bar under the tag of the kind. -/
def word? (kind : String) : Node → Option String
  | .scalar text .plain _ _ => some text
  | .scalar text .literal (some tag) _ => if tag = Tag.ofKind kind then some text else none
  | _ => none

/-- Whether nothing is written where a collection could stand. -/
def isNothing : Node → Bool
  | .scalar text .plain _ _ => text.isEmpty
  | _ => false

/-- The items of a sequence.  Nothing at all counts as no items. -/
def items? (node : Node) : Option (List Node) :=
  match node with
  | .sequence items _ => some items
  | _ => if node.isNothing then some [] else none

/-- The entries of a mapping.  Nothing at all counts as no entries. -/
def entries? (node : Node) : Option (List (Node × Node)) :=
  match node with
  | .mapping entries _ => some entries
  | _ => if node.isNothing then some [] else none

end Node

/-- A document. -/
structure Document where
  /-- The node that is not below another. -/
  root : Node
  /-- The nodes that have an anchor, the last to begin first. -/
  anchored : List (Nat × Node) := root.anchored []
  /-- They are those of the root. -/
  anchored_eq : anchored = root.anchored [] := by rfl

namespace Document

/-- The node that an alias stands for: the last one that begins with its anchor. -/
def target? (document : Document) (anchor : Nat) : Option Node := document.anchored.lookup anchor

/-- How many aliases may be followed in the reading of a document, which are a hundred for every
unit of its size.  Since the node behind an alias may hold further aliases, this bounds the work. -/
def aliasLimit (document : Document) : Nat := 100 * document.root.size

end Document
end Yaml
end Chip8
