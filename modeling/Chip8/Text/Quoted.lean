import Chip8.Text.Hidden

/-!
# Quoted text

Text between double quotes, on one line: quotes and backslashes are escaped, and characters that
cannot be shown by themselves are given by a letter or by their number.
-/

namespace Chip8
namespace Text
namespace Quoted

/-- The characters that stand for one character inside the quotes. -/
def escape (c : Char) : List Char :=
  if c = '"' then ['\\', '"']
  else if c = '\\' then ['\\', '\\']
  else if c = '\n' then ['\\', 'n']
  else if c = '\r' then ['\\', 'r']
  else if c = '\t' then ['\\', 't']
  else if c.toNat = 0 then ['\\', '0']
  else if c.toNat < 32 ∨ Hidden.contains c then
    ['\\', 'u', '\x7b'] ++ Nat.toDigits 16 c.toNat ++ ['\x7d']
  else [c]

/-- A text in quotes. -/
def render (text : String) : String :=
  String.ofList ('"' :: text.toList.flatMap escape ++ ['"'])

end Quoted
end Text
end Chip8
