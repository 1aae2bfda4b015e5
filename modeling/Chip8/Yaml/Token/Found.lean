import Chip8.Yaml.Token

/-!
# Tokens found so far

Tokens are found in order, but some only show that another one began before the tokens found last.
So a token can be added at the end or be put behind a number of those found.
-/

namespace Chip8
namespace Yaml

/-- Tokens in the order of the text. -/
structure Found where
  /-- The tokens, the latest first. -/
  latest : List Token := []
  /-- How many they are. -/
  size : Nat := 0
  /-- The number is right. -/
  length_eq : latest.length = size := by rfl
deriving DecidableEq, Repr

namespace Found

/-- The tokens, the first one first. -/
def toList (found : Found) : List Token := found.latest.reverse

/-- Add a token at the end. -/
def push (found : Found) (token : Token) : Found where
  latest := token :: found.latest
  size := found.size + 1
  length_eq := by simp [found.length_eq]

/-- Put a token behind a number of the first tokens. -/
def insert (found : Found) (position : Nat) (token : Token) : Found where
  latest := found.latest.insertIdx (found.size - position) token
  size := found.size + 1
  length_eq := by simp [List.length_insertIdx, found.length_eq]

end Found
end Yaml
end Chip8
