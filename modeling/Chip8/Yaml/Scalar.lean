import Chip8.Hex

/-!
# Values of plain scalars

What a plain scalar stands for: a truth value, nothing, or an integer.  Integers are written in
decimal without leading zeros, or in base 16, 8 or 2 after `0x`, `0o` or `0b`.
-/

namespace Chip8
namespace Yaml
namespace Scalar

/-- The truth value that a plain scalar stands for. -/
def boolean? : String → Option Bool
  | "true" | "True" | "TRUE" => some true
  | "false" | "False" | "FALSE" => some false
  | _ => none

/-- Whether a plain scalar is a word for nothing. -/
def isNull (text : String) : Bool :=
  text == "~" || text == "null" || text == "Null" || text == "NULL"

/-- The number that digits write in a base: at least one digit, each below the base. -/
def number? (base : Nat) (digits : List Char) : Option Nat :=
  if digits.isEmpty then none
  else digits.foldlM (fun value c => do
    let digit ← Hex.value? c
    if digit < base then some (value * base + digit) else none) 0

/-- Whether these are several decimal digits of which the first is zero. -/
def hasLeadingZero (digits : List Char) : Bool :=
  1 < digits.length && digits.head? = some '0' && digits.all Char.isDigit

/-- The magnitude that unsigned characters write. -/
def magnitude? : List Char → Option Nat
  | '0' :: 'x' :: digits => number? 16 digits
  | '0' :: 'o' :: digits => number? 8 digits
  | '0' :: 'b' :: digits => number? 2 digits
  | digits => if hasLeadingZero digits then none else number? 10 digits

/-- The natural number that a plain scalar stands for. -/
def natural? (text : String) : Option Nat :=
  match text.toList with
  | '+' :: rest => magnitude? rest
  | chars => magnitude? chars

/-- The integer that a plain scalar stands for. -/
def integer? (text : String) : Option Int :=
  match text.toList with
  | '-' :: rest => (magnitude? rest).map fun value => -(value : Int)
  | _ => (natural? text).map fun value => (value : Int)

end Scalar
end Yaml
end Chip8
